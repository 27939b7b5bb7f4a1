/-
`verification/SovereignEdge/Policy.lean`, the repository's own model of the policy evaluator,
and the evaluator of the crate as a refinement of it.

The model compares integers, has the five known operators and one error. The crate casts the
value of a field to a double before it compares it with the double of a threshold. The two
agree on a threshold whose double is an integer, as long as no other value of the field is
cast to that double (`Models`). From the leaves the agreement goes up through the lists, whose
loops the two have in common, and what the model proves of its evaluator holds of the crate's.
-/
import SovereignEdgeTee.Binary64Value
import SovereignEdgeTee.ZkThreshold
import Mathlib.Data.List.Forall2

set_option autoImplicit false

/-! ## The model

The definitions are those of the file, with its names. The model has one error, the missing
field; the crate has a second, for an operator it does not know, and such a threshold is none
of the model's. What the file proves about its evaluator is proved here as one statement,
`Answers`, for all three of its functions. -/

namespace SovereignEdge.Policy

inductive Cmp where
  | gt | ge | lt | le | eq
deriving DecidableEq

def Cmp.holds : Cmp → ℤ → ℤ → Prop
  | .gt, a, b => a > b
  | .ge, a, b => a ≥ b
  | .lt, a, b => a < b
  | .le, a, b => a ≤ b
  | .eq, a, b => a = b

instance Cmp.decidableHolds : ∀ (op : Cmp) (a b : ℤ), Decidable (op.holds a b)
  | .gt, a, b => inferInstanceAs (Decidable (a > b))
  | .ge, a, b => inferInstanceAs (Decidable (a ≥ b))
  | .lt, a, b => inferInstanceAs (Decidable (a < b))
  | .le, a, b => inferInstanceAs (Decidable (a ≤ b))
  | .eq, a, b => inferInstanceAs (Decidable (a = b))

inductive Constraint where
  | range (field : String) (min max : ℤ)
  | threshold (field : String) (op : Cmp) (value : ℤ)
  | and (conditions : List Constraint)
  | or (conditions : List Constraint)

/-- The numeric values of an action. -/
def Data := String → Option ℤ

mutual

/-- The evaluator; `none` is a missing field. -/
def check (d : Data) : Constraint → Option Bool
  | .range f lo hi =>
    match d f with
    | none => none
    | some v => some (decide (lo ≤ v ∧ v ≤ hi))
  | .threshold f op x =>
    match d f with
    | none => none
    | some v => some (decide (op.holds v x))
  | .and cs => checkAll d cs
  | .or cs => checkAny d cs

def checkAll (d : Data) : List Constraint → Option Bool
  | [] => some true
  | c :: cs =>
    match check d c with
    | none => none
    | some false => some false
    | some true => checkAll d cs

def checkAny (d : Data) : List Constraint → Option Bool
  | [] => some false
  | c :: cs =>
    match check d c with
    | none => none
    | some true => some true
    | some false => checkAny d cs

end

mutual

/-- When a constraint holds, without an order of evaluation. -/
def Sat (d : Data) : Constraint → Prop
  | .range f lo hi => ∃ v, d f = some v ∧ lo ≤ v ∧ v ≤ hi
  | .threshold f op x => ∃ v, d f = some v ∧ op.holds v x
  | .and cs => SatAll d cs
  | .or cs => SatAny d cs

def SatAll (d : Data) : List Constraint → Prop
  | [] => True
  | c :: cs => Sat d c ∧ SatAll d cs

def SatAny (d : Data) : List Constraint → Prop
  | [] => False
  | c :: cs => Sat d c ∨ SatAny d cs

end

mutual

/-- Every field a constraint refers to is there. -/
def WF (d : Data) : Constraint → Prop
  | .range f _ _ => (d f).isSome
  | .threshold f _ _ => (d f).isSome
  | .and cs => WFAll d cs
  | .or cs => WFAll d cs

def WFAll (d : Data) : List Constraint → Prop
  | [] => True
  | c :: cs => WF d c ∧ WFAll d cs

end

/-- The outcome is an answer, and the answer is yes just when `p` holds. -/
def Answers (outcome : Option Bool) (p : Prop) : Prop := ∃ b, outcome = some b ∧ (b = true ↔ p)

mutual

/-- On data that has every field the evaluator answers, and answers right. -/
theorem check_answers (d : Data) : ∀ c, WF d c → Answers (check d c) (Sat d c)
  | .range f lo hi, h => by
    rw [WF] at h
    obtain ⟨v, hv⟩ := Option.isSome_iff_exists.mp h
    -- the field is there, so the comparison is made
    exact ⟨decide (lo ≤ v ∧ v ≤ hi), by rw [check, hv], by simp [Sat, hv]⟩
  | .threshold f op x, h => by
    rw [WF] at h
    obtain ⟨v, hv⟩ := Option.isSome_iff_exists.mp h
    exact ⟨decide (op.holds v x), by rw [check, hv], by simp [Sat, hv]⟩
  | .and cs, h => by
    rw [WF] at h
    rw [check, Sat]
    exact checkAll_answers d cs h
  | .or cs, h => by
    rw [WF] at h
    rw [check, Sat]
    exact checkAny_answers d cs h

theorem checkAll_answers (d : Data) : ∀ cs, WFAll d cs → Answers (checkAll d cs) (SatAll d cs)
  | [], _ => ⟨true, by rw [checkAll], by simp [SatAll]⟩
  | c :: cs, h => by
    rw [WFAll] at h
    obtain ⟨b, hb, hsat⟩ := check_answers d c h.1
    rw [checkAll, SatAll, hb, ← hsat]
    cases b with
    -- the first condition that fails decides; what comes after it is not looked at
    | false => exact ⟨false, rfl, by simp⟩
    | true =>
      rw [eq_self, true_and]
      exact checkAll_answers d cs h.2

theorem checkAny_answers (d : Data) : ∀ cs, WFAll d cs → Answers (checkAny d cs) (SatAny d cs)
  | [], _ => ⟨false, by rw [checkAny], by simp [SatAny]⟩
  | c :: cs, h => by
    rw [WFAll] at h
    obtain ⟨b, hb, hsat⟩ := check_answers d c h.1
    rw [checkAny, SatAny, hb, ← hsat]
    cases b with
    -- and here the first that holds
    | true => exact ⟨true, rfl, by simp⟩
    | false =>
      rw [Bool.false_eq_true, false_or]
      exact checkAny_answers d cs h.2

end

end SovereignEdge.Policy

/-! ## The refinement

The relation `Models` ties a constraint of the crate to one of the model, for the values of
one action: whether a threshold is the model's depends on the value that its field has there.
`check_refines` goes over the constraints by their own induction, and the two loops are lemmas
about lists whose hypothesis is that of the induction. -/

namespace SovereignEdgeTee

open Binary64 SovereignEdge

/-- The spelling of an operator of the model. -/
def operator_name : Policy.Cmp → String
  | .gt => ">"
  | .ge => ">="
  | .lt => "<"
  | .le => "<="
  | .eq => "=="

/-- The numeric values as the model has them. -/
def ActionData.modelled (d : ActionData) : Policy.Data :=
  fun field => (d.get_numeric field).map Int64.toInt

/-- A constraint of the crate is one of the model, for the values of `d`. A threshold is, if
its double is an integer and the value of the field is not another one of the same double. -/
inductive Models (d : ActionData) : Constraint → Policy.Constraint → Prop where
  | range (field : String) (min max : Int64) :
      Models d (.Range field min max) (.range field min.toInt max.toInt)
  | threshold (field : String) (op : Policy.Cmp) {value : F64} {bound : ℤ}
      (hvalue : IsInt value bound)
      (hexact : ∀ actual, d.get_numeric field = some actual →
        nearest actual.toInt = bound → actual.toInt = bound) :
      Models d (.Threshold field (operator_name op) value) (.threshold field op bound)
  | and {conditions : List Constraint} {modelled : List Policy.Constraint}
      (h : List.Forall₂ (Models d) conditions modelled) : Models d (.And conditions) (.and modelled)
  | or {conditions : List Constraint} {modelled : List Policy.Constraint}
      (h : List.Forall₂ (Models d) conditions modelled) : Models d (.Or conditions) (.or modelled)

variable {d : ActionData}

/-- Values and bounds below `2 ^ 53` are never cast to one double. -/
theorem Models.threshold_of_small {field : String} (op : Policy.Cmp) {value : F64} {bound : ℤ}
    (hvalue : IsInt value bound)
    (hsmall : ∀ actual, d.get_numeric field = some actual →
      actual.toInt.natAbs < 2 ^ 53 ∨ bound.natAbs < 2 ^ 53) :
    Models d (.Threshold field (operator_name op) value) (.threshold field op bound) := by
  refine .threshold field op hvalue ?_
  intro actual hactual hsame
  exact nearest_inj_of_small (hsmall actual hactual) (hsame.trans hvalue.nearest_eq.symm)

/-- The cast of a value compares with a bound as the value does. -/
theorem nearest_lt_iff {a b : ℤ} (hb : nearest b = b) (hexact : nearest a = b → a = b) :
    (nearest a < b ↔ a < b) ∧ (b < nearest a ↔ b < a) := by
  rcases lt_trichotomy a b with hlt | heq | hgt
  · -- the cast may meet the bound but not pass it, and `hexact` says it does not meet it
    have hle := nearest_mono hlt.le
    have hne : nearest a ≠ b := fun hsame => hlt.ne (hexact hsame)
    omega
  · rw [heq, hb]
    exact ⟨Iff.rfl, Iff.rfl⟩
  · have hle := nearest_mono hgt.le
    have hne : nearest a ≠ b := fun hsame => hgt.ne' (hexact hsame)
    omega

theorem check_threshold_refines (op : Policy.Cmp) {actual : Int64} {value : F64} {bound : ℤ}
    (hvalue : IsInt value bound) (hexact : nearest actual.toInt = bound → actual.toInt = bound) :
    check_threshold actual (operator_name op) value =
      .ok (decide (op.holds actual.toInt bound)) := by
  have hcast := isInt_cast actual
  obtain ⟨hlt, hgt⟩ := nearest_lt_iff hvalue.nearest_eq hexact
  have hsame : nearest actual.toInt = bound ↔ actual.toInt = bound := by
    refine ⟨hexact, ?_⟩
    rintro rfl
    exact hvalue.nearest_eq
  have hok {b : Bool} {p : Prop} [Decidable p] (h : b = true ↔ p) :
      (Except.ok b : Except ZkError Bool) = .ok (decide p) := by
    rw [Except.ok.injEq, Bool.eq_iff_iff, h, decide_eq_true_iff]
  cases op with
  | gt => exact hok ((bgt_iff hcast hvalue).trans hgt)
  | ge =>
      -- `nearest_lt_iff` has the strict comparisons, so this goes through its negation
      refine hok ((ble_iff hvalue hcast).trans ?_)
      rw [← not_lt, hlt, not_lt]
      rfl
  | lt => exact hok ((bgt_iff hvalue hcast).trans hlt)
  | le =>
      refine hok ((ble_iff hcast hvalue).trans ?_)
      rw [← not_lt, hgt, not_lt]
      rfl
  | eq => exact hok ((sub_within_epsilon_iff hcast hvalue).trans hsame)

/-- The loops over the conditions go on and stop at the same places. -/
theorem all_refines {cs : List Constraint} {ms : List Policy.Constraint}
    (h : List.Forall₂ (Models d) cs ms)
    (ih : ∀ c ∈ cs, ∀ m, Models d c m →
      (check_constraint d c).toOption = Policy.check d.modelled m) :
    (ShortCircuit.all (check_constraint d) cs).toOption = Policy.checkAll d.modelled ms := by
  induction h with
  | nil => rw [Policy.checkAll]; rfl
  | cons hc hcs ihcs =>
      rw [List.forall_mem_cons] at ih
      rw [Policy.checkAll, ← ih.1 _ hc, ShortCircuit.all]
      -- an error and a `false` end both loops, a `true` goes on in both
      rcases check_constraint d _ with e | _ | _
      · rfl
      · rfl
      · exact ihcs ih.2

theorem any_refines {cs : List Constraint} {ms : List Policy.Constraint}
    (h : List.Forall₂ (Models d) cs ms)
    (ih : ∀ c ∈ cs, ∀ m, Models d c m →
      (check_constraint d c).toOption = Policy.check d.modelled m) :
    (ShortCircuit.any (check_constraint d) cs).toOption = Policy.checkAny d.modelled ms := by
  induction h with
  | nil => rw [Policy.checkAny]; rfl
  | cons hc hcs ihcs =>
      rw [List.forall_mem_cons] at ih
      rw [Policy.checkAny, ← ih.1 _ hc, ShortCircuit.any]
      rcases check_constraint d _ with e | _ | _
      · rfl
      · exact ihcs ih.2
      · rfl

theorem check_refines (c : Constraint) :
    ∀ m, Models d c m → (check_constraint d c).toOption = Policy.check d.modelled m := by
  induction c using Constraint.induction with
  | range field min max =>
      rintro m ⟨⟩
      rw [check_constraint, Policy.check, ActionData.modelled]
      cases d.get_numeric field with
      | none => rfl
      | some value =>
          show some (decide (min ≤ value) && decide (value ≤ max)) = some (decide _)
          simp only [Int64.le_iff_toInt_le, Bool.decide_and]
  | threshold field operator value =>
      intro m h
      cases h with
      | threshold _ op hvalue hexact =>
          rw [check_constraint, Policy.check, ActionData.modelled]
          cases hfield : d.get_numeric field with
          | none => rfl
          | some actual =>
              show (check_threshold actual (operator_name op) value).toOption = _
              rw [check_threshold_refines op hvalue (hexact actual hfield)]
              rfl
  | and cs ih =>
      intro m h
      cases h with
      | and hcs =>
          rw [check_constraint, check_and_eq, Policy.check]
          exact all_refines hcs ih
  | or cs ih =>
      intro m h
      cases h with
      | or hcs =>
          rw [check_constraint, check_or_eq, Policy.check]
          exact any_refines hcs ih

/-- **The evaluator refines its model.** On constraints the model has, the evaluator answers
what the model answers and fails where it fails. So where every field that a policy refers to
is there, the evaluator answers, and accepts just what satisfies the policy. -/
theorem policy_refines {cs : List Constraint} {ms : List Policy.Constraint}
    (h : List.Forall₂ (Models d) cs ms) :
    (verify_constraints d cs).toOption = Policy.checkAll d.modelled ms ∧
      (Policy.WFAll d.modelled ms →
        ∃ accepted, verify_constraints d cs = .ok accepted ∧
          (accepted = true ↔ Policy.SatAll d.modelled ms)) := by
  -- the constraints of a policy are the conditions of one `And`
  have hrefines : (verify_constraints d cs).toOption = Policy.checkAll d.modelled ms := by
    rw [verify_constraints_eq]
    exact all_refines h fun c _ => check_refines c
  refine ⟨hrefines, ?_⟩
  intro hwf
  obtain ⟨accepted, hanswer, hsat⟩ := Policy.checkAll_answers d.modelled ms hwf
  rw [hanswer] at hrefines
  refine ⟨accepted, ?_, hsat⟩
  cases houtcome : verify_constraints d cs with
  | error e =>
      rw [houtcome] at hrefines
      cases hrefines
  | ok b =>
      rw [houtcome] at hrefines
      rw [Option.some.inj hrefines]

/-- A policy of a range and a threshold below 53 bits, in a disjunction. -/
theorem policy_refines_counted :
    (verify_constraints (counted 7)
        [.Or [.Range "count" 0 5, .Threshold "count" "<=" (F64.ofInt 9)]]).toOption =
      Policy.checkAll (counted 7).modelled
        [.or [.range "count" 0 5, .threshold "count" .le 9]] := by
  have hnine : IsInt (F64.ofInt 9) 9 := ofInt_isInt (n := 9) (by decide)
  have hsmall : ∀ actual, (counted 7).get_numeric "count" = some actual →
      actual.toInt.natAbs < 2 ^ 53 ∨ (9 : ℤ).natAbs < 2 ^ 53 := fun _ _ => Or.inr (by decide)
  have hthreshold : Models (counted 7) (.Threshold "count" "<=" (F64.ofInt 9))
      (.threshold "count" .le 9) :=
    Models.threshold_of_small .le hnine hsmall
  exact (policy_refines (.cons (.or (.cons (.range "count" 0 5) (.cons hthreshold .nil)))
    .nil)).1

end SovereignEdgeTee
