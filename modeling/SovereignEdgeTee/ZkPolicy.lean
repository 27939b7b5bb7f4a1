/-
`crates/zk-proofs/src/lib.rs`: the policies and their evaluator.

A `HashMap` is an association list with distinct keys. The order of its entries is
the order the map happens to iterate in, and a statement about every association list
is one about every order. Of an action only the numeric values are kept: its
name, its parameters and its confidence are read by no function of the crate.

The evaluator answers, or raises an error, and it stops as soon as it knows. `Sat`
says when a constraint holds without any order of evaluation. `check_spec` relates
the two: an answer is the truth, and an error names a leaf that is at fault.
-/
import SovereignEdgeTee.Binary64
import SovereignEdgeTee.ShortCircuit
import Mathlib.Data.List.AList

set_option autoImplicit false

namespace SovereignEdgeTee

inductive ZkError where
  | PolicyNotFound (policy_id : String)
  | MissingField (field : String)
  | InvalidOperator (operator : String)
  | ConstraintViolation
  | ProofGenerationFailed (reason : String)
  | VerificationFailed
deriving DecidableEq

inductive Constraint where
  | Range (field : String) (min max : Int64)
  | Threshold (field operator : String) (value : F64)
  | And (conditions : List Constraint)
  | Or (conditions : List Constraint)

structure SafetyPolicy where
  id : String
  description : String
  circuit_constraints : List Constraint

structure ActionData where
  numeric_values : AList fun _ : String => Int64

def ActionData.get_numeric (self : ActionData) (field : String) : Option Int64 :=
  self.numeric_values.lookup field

/-! ## The evaluator

A loop of the source over a list of conditions is a function on that list, next to
`check_constraint` in one mutual recursion. The equations below turn the three loops into the
two folds of `ShortCircuit`, and with `Constraint.induction` nothing has to be proved by
mutual recursion any more. -/

/-- The comparison of a `Threshold`, once its field is known. -/
def check_threshold (actual : Int64) (operator : String) (value : F64) : Except ZkError Bool :=
  match operator with
  | ">" => .ok ((F64.ofInt actual.toInt).bgt value)
  | ">=" => .ok ((F64.ofInt actual.toInt).bge value)
  | "<" => .ok ((F64.ofInt actual.toInt).blt value)
  | "<=" => .ok ((F64.ofInt actual.toInt).ble value)
  | "==" => .ok (((F64.ofInt actual.toInt).sub value).abs.blt F64.epsilon)
  | _ => .error (.InvalidOperator operator)

mutual

/-- `ZkProofGenerator::check_constraint`. -/
def check_constraint (action_data : ActionData) : Constraint → Except ZkError Bool
  | .Range field min max =>
    match action_data.get_numeric field with
    | none => .error (.MissingField field)
    | some value => .ok (value ≥ min && value ≤ max)
  | .Threshold field operator value =>
    match action_data.get_numeric field with
    | none => .error (.MissingField field)
    | some actual => check_threshold actual operator value
  | .And conditions => check_and action_data conditions
  | .Or conditions => check_or action_data conditions

/-- The loop of the `And` arm. -/
def check_and (action_data : ActionData) : List Constraint → Except ZkError Bool
  | [] => .ok true
  | cond :: conditions =>
    match check_constraint action_data cond with
    | .error e => .error e
    | .ok false => .ok false
    | .ok true => check_and action_data conditions

/-- The loop of the `Or` arm. -/
def check_or (action_data : ActionData) : List Constraint → Except ZkError Bool
  | [] => .ok false
  | cond :: conditions =>
    match check_constraint action_data cond with
    | .error e => .error e
    | .ok true => .ok true
    | .ok false => check_or action_data conditions

end

/-- `ZkProofGenerator::verify_constraints`. -/
def verify_constraints (action_data : ActionData) : List Constraint → Except ZkError Bool
  | [] => .ok true
  | constraint :: constraints =>
    match check_constraint action_data constraint with
    | .error e => .error e
    | .ok false => .ok false
    | .ok true => verify_constraints action_data constraints

theorem check_and_eq (d : ActionData) (cs : List Constraint) :
    check_and d cs = ShortCircuit.all (check_constraint d) cs := by
  induction cs with
  | nil => rfl
  | cons c cs ih =>
      rw [check_and, ShortCircuit.all, ih]
      rcases check_constraint d c with e | _ | _ <;> rfl

theorem check_or_eq (d : ActionData) (cs : List Constraint) :
    check_or d cs = ShortCircuit.any (check_constraint d) cs := by
  induction cs with
  | nil => rfl
  | cons c cs ih =>
      rw [check_or, ShortCircuit.any, ih]
      rcases check_constraint d c with e | _ | _ <;> rfl

theorem verify_constraints_eq (d : ActionData) (cs : List Constraint) :
    verify_constraints d cs = ShortCircuit.all (check_constraint d) cs := by
  induction cs with
  | nil => rfl
  | cons c cs ih =>
      rw [verify_constraints, ShortCircuit.all, ih]
      rcases check_constraint d c with e | _ | _ <;> rfl

/-- Induction on constraints: an `And` or an `Or` may use every condition of its list. -/
theorem Constraint.induction {motive : Constraint → Prop}
    (range : ∀ field min max, motive (.Range field min max))
    (threshold : ∀ field operator value, motive (.Threshold field operator value))
    (and : ∀ conditions, (∀ c ∈ conditions, motive c) → motive (.And conditions))
    (or : ∀ conditions, (∀ c ∈ conditions, motive c) → motive (.Or conditions))
    (c : Constraint) : motive c := by
  refine Constraint.rec (motive_1 := motive) (motive_2 := fun cs => ∀ c ∈ cs, motive c)
    range threshold and or ?_ ?_ c
  · exact fun c hc => absurd hc List.not_mem_nil
  · intro c cs hc hcs
    exact List.forall_mem_cons.mpr ⟨hc, hcs⟩

/-! ## When a constraint holds

`Sat` has no order and no errors. `Judges` says what each outcome of the evaluator has to do
with it, and is proved by induction on the constraint, with one lemma for each of its forms. -/

/-- The operators a `Threshold` may have. -/
def known_operators : List String := [">", ">=", "<", "<=", "=="]

/-- A known operator, and the comparison it stands for holds. -/
def Compares (operator : String) (actual value : F64) : Prop :=
  (operator = ">" ∧ actual.bgt value) ∨ (operator = ">=" ∧ actual.bge value) ∨
    (operator = "<" ∧ actual.blt value) ∨ (operator = "<=" ∧ actual.ble value) ∨
    (operator = "==" ∧ (actual.sub value).abs.blt F64.epsilon)

/-- A constraint holds of an action: at a leaf the field is present and compares as it
should, `And` means all and `Or` means some. -/
inductive Sat (d : ActionData) : Constraint → Prop where
  | range {field : String} {min max value : Int64} (hfield : d.get_numeric field = some value)
      (hmin : min ≤ value) (hmax : value ≤ max) : Sat d (.Range field min max)
  | threshold {field operator : String} {value : F64} {actual : Int64}
      (hfield : d.get_numeric field = some actual)
      (hcompares : Compares operator (F64.ofInt actual.toInt) value) :
      Sat d (.Threshold field operator value)
  | and {conditions : List Constraint} (h : ∀ c ∈ conditions, Sat d c) : Sat d (.And conditions)
  | or {conditions : List Constraint} {c : Constraint} (hc : c ∈ conditions) (h : Sat d c) :
      Sat d (.Or conditions)

/-- A constraint occurs in another one. -/
inductive Occurs (c : Constraint) : Constraint → Prop where
  | here : Occurs c c
  | and {conditions : List Constraint} {cond : Constraint} (hcond : cond ∈ conditions)
      (h : Occurs c cond) : Occurs c (.And conditions)
  | or {conditions : List Constraint} {cond : Constraint} (hcond : cond ∈ conditions)
      (h : Occurs c cond) : Occurs c (.Or conditions)

/-- The field a leaf refers to. -/
def Constraint.field : Constraint → Option String
  | .Range field _ _ => some field
  | .Threshold field _ _ => some field
  | _ => none

/-- What an error of the evaluator says about the constraint it was raised on. -/
def Blames (d : ActionData) (c : Constraint) : ZkError → Prop
  | .MissingField field => d.get_numeric field = none ∧
      ∃ leaf, Occurs leaf c ∧ leaf.field = some field
  | .InvalidOperator operator => operator ∉ known_operators ∧
      ∃ field value, Occurs (.Threshold field operator value) c ∧ (d.get_numeric field).isSome
  | _ => False

/-- A leaf to blame for a condition is one to blame for the node above. -/
theorem Blames.lift {d : ActionData} {c c' : Constraint} {e : ZkError} (h : Blames d c e)
    (hup : ∀ leaf, Occurs leaf c → Occurs leaf c') : Blames d c' e := by
  cases e with
  | MissingField field =>
      obtain ⟨habsent, leaf, hleaf, hfield⟩ := h
      exact ⟨habsent, leaf, hup leaf hleaf, hfield⟩
  | InvalidOperator operator =>
      obtain ⟨hop, field, value, hleaf, hpresent⟩ := h
      exact ⟨hop, field, value, hup _ hleaf, hpresent⟩
  | _ => exact h

/-- The comparison answers for the known operators and rejects the others. -/
theorem check_threshold_spec (actual : Int64) (operator : String) (value : F64) :
    (∃ b, check_threshold actual operator value = .ok b ∧
      (b = true ↔ Compares operator (F64.ofInt actual.toInt) value)) ∨
    check_threshold actual operator value = .error (.InvalidOperator operator) ∧
      operator ∉ known_operators := by
  unfold check_threshold Compares
  split
  · exact Or.inl ⟨_, rfl, by simp⟩
  · exact Or.inl ⟨_, rfl, by simp⟩
  · exact Or.inl ⟨_, rfl, by simp⟩
  · exact Or.inl ⟨_, rfl, by simp⟩
  · exact Or.inl ⟨_, rfl, by simp⟩
  · -- the catch-all arm: the operator is none of the five
    refine Or.inr ⟨rfl, ?_⟩
    simp only [known_operators, List.mem_cons, List.not_mem_nil, or_false, not_or]
    exact ⟨by assumption, by assumption, by assumption, by assumption, by assumption⟩

/-- What the evaluator's outcome says about a constraint. -/
def Judges (d : ActionData) (c : Constraint) : Except ZkError Bool → Prop
  | .ok true => Sat d c
  | .ok false => ¬ Sat d c
  | .error e => Blames d c e

theorem judges_range (d : ActionData) (field : String) (min max : Int64) :
    Judges d (.Range field min max) (check_constraint d (.Range field min max)) := by
  rw [check_constraint]
  cases hfield : d.get_numeric field with
  | none => exact ⟨hfield, _, .here, rfl⟩
  | some value =>
      -- the field has one value, so the one that `Sat` speaks of is this one
      have hsat : Sat d (.Range field min max) ↔ min ≤ value ∧ value ≤ max := by
        constructor
        · intro h
          cases h with
          | range hv hmin hmax =>
              obtain rfl := Option.some.inj (hfield.symm.trans hv)
              exact ⟨hmin, hmax⟩
        · rintro ⟨hmin, hmax⟩
          exact .range hfield hmin hmax
      by_cases h : min ≤ value ∧ value ≤ max
      · simpa [Judges, h.1, h.2] using hsat.mpr h
      · have hfalse : (decide (value ≥ min) && decide (value ≤ max)) = false := by
          simpa using h
        simp only [hfalse, Judges]
        rwa [hsat]

theorem judges_threshold (d : ActionData) (field operator : String) (value : F64) :
    Judges d (.Threshold field operator value)
      (check_constraint d (.Threshold field operator value)) := by
  rw [check_constraint]
  cases hfield : d.get_numeric field with
  | none => exact ⟨hfield, _, .here, rfl⟩
  | some actual =>
      have hsat : Sat d (.Threshold field operator value) ↔
          Compares operator (F64.ofInt actual.toInt) value := by
        constructor
        · intro h
          cases h with
          | threshold hv hcompares =>
              obtain rfl := Option.some.inj (hfield.symm.trans hv)
              exact hcompares
        · exact .threshold hfield
      -- the operator is known and gives an answer, or is to blame
      obtain ⟨b, hb, hiff⟩ | ⟨herr, hop⟩ := check_threshold_spec actual operator value
      · rw [← hsat] at hiff
        simp only [hb]
        cases b with
        | true => exact hiff.mp rfl
        | false => exact fun h => Bool.false_ne_true (hiff.mpr h)
      · simp only [herr]
        exact ⟨hop, field, value, .here, by rw [hfield]; rfl⟩

theorem judges_and {d : ActionData} {cs : List Constraint}
    (ih : ∀ c ∈ cs, Judges d c (check_constraint d c)) :
    Judges d (.And cs) (check_constraint d (.And cs)) := by
  rw [check_constraint, check_and_eq]
  cases h : ShortCircuit.all (check_constraint d) cs with
  | ok b =>
      cases b with
      | true =>
          -- every condition was asked
          refine .and ?_
          intro c hc
          have hj := ih c hc
          rwa [ShortCircuit.all_eq_true.mp h c hc] at hj
      | false =>
          -- the condition that ended the loop is not satisfied, whatever follows it
          obtain ⟨c, hc, hfalse⟩ := ShortCircuit.all_ne_true h (by simp)
          have hj := ih c hc
          rw [hfalse] at hj
          intro h
          cases h with
          | and hall => exact hj (hall c hc)
  | error e =>
      -- the error is that of a condition, and its leaf is a leaf of the whole
      obtain ⟨c, hc, herr⟩ := ShortCircuit.all_ne_true h (by simp)
      have hj := ih c hc
      rw [herr] at hj
      exact Blames.lift hj fun leaf hleaf => .and hc hleaf

theorem judges_or {d : ActionData} {cs : List Constraint}
    (ih : ∀ c ∈ cs, Judges d c (check_constraint d c)) :
    Judges d (.Or cs) (check_constraint d (.Or cs)) := by
  rw [check_constraint, check_or_eq]
  cases h : ShortCircuit.any (check_constraint d) cs with
  | ok b =>
      cases b with
      | true =>
          -- the condition that ended the loop
          obtain ⟨c, hc, htrue⟩ := ShortCircuit.any_ne_false h (by simp)
          have hj := ih c hc
          rw [htrue] at hj
          exact .or hc hj
      | false =>
          -- every condition was asked, and none of them holds
          intro hor
          cases hor with
          | or hc hsat =>
              have hj := ih _ hc
              rw [ShortCircuit.any_eq_false.mp h _ hc] at hj
              exact hj hsat
  | error e =>
      obtain ⟨c, hc, herr⟩ := ShortCircuit.any_ne_false h (by simp)
      have hj := ih c hc
      rw [herr] at hj
      exact Blames.lift hj fun leaf hleaf => .or hc hleaf

/-- **The evaluator is right.** An answer is the truth, and an error names a leaf at fault. -/
theorem check_spec (d : ActionData) (c : Constraint) : Judges d c (check_constraint d c) := by
  induction c using Constraint.induction with
  | range field min max => exact judges_range d field min max
  | threshold field operator value => exact judges_threshold d field operator value
  | and cs ih => exact judges_and ih
  | or cs ih => exact judges_or ih

/-- The list of a policy is checked as an `And` of its constraints is. -/
theorem verify_spec (d : ActionData) (cs : List Constraint) :
    Judges d (.And cs) (verify_constraints d cs) := by
  have h := check_spec d (.And cs)
  rwa [check_constraint, check_and_eq, ← verify_constraints_eq] at h

end SovereignEdgeTee
