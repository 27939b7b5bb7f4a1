/-
What an answer of the evaluator depends on, and what it does not.

An answer depends neither on values beyond those that were read, nor on the order of the
conditions of an `And` or an `Or`. Which leaves are visited depends on the order, and so
does which error is raised. Two answers are compared through `Sat`, which knows no order:
an answer is the truth, and the truth is the same.
-/
import SovereignEdgeTee.ZkPolicy

set_option autoImplicit false

namespace SovereignEdgeTee

/-! ## More values

The evaluator looks values up and never asks how many there are. So a value that is added can
turn an error into an answer, but an answer is made of lookups that succeeded, and they give
the same values again. -/

/-- `self` has the values of `d`, and perhaps more. -/
def ActionData.Extends (self d : ActionData) : Prop :=
  ∀ field value, d.get_numeric field = some value → self.get_numeric field = some value

/-- An answer of the evaluator stands when more values are supplied. -/
theorem check_mono {d d' : ActionData} (hmore : d'.Extends d) (c : Constraint) :
    ∀ b, check_constraint d c = .ok b → check_constraint d' c = .ok b := by
  induction c using Constraint.induction with
  | range field min max =>
      intro b h
      rw [check_constraint] at h ⊢
      cases hfield : d.get_numeric field with
      | none => simp [hfield] at h
      | some value => simpa [hfield, hmore field value hfield] using h
  | threshold field operator value =>
      intro b h
      rw [check_constraint] at h ⊢
      cases hfield : d.get_numeric field with
      | none => simp [hfield] at h
      | some actual => simpa [hfield, hmore field actual hfield] using h
  | and cs ih =>
      intro b h
      rw [check_constraint, check_and_eq] at h ⊢
      exact ShortCircuit.all_mono ih h
  | or cs ih =>
      intro b h
      rw [check_constraint, check_or_eq] at h ⊢
      exact ShortCircuit.any_mono ih h

theorem verify_mono {d d' : ActionData} (hmore : d'.Extends d) {cs : List Constraint} {b : Bool}
    (h : verify_constraints d cs = .ok b) : verify_constraints d' cs = .ok b := by
  rw [verify_constraints_eq] at h ⊢
  exact ShortCircuit.all_mono (fun c _ => check_mono hmore c) h

/-- **Answers are stable.** More values change no answer, of a constraint or of a list. -/
theorem answers_stable {d d' : ActionData} (hmore : d'.Extends d) :
    (∀ c b, check_constraint d c = .ok b → check_constraint d' c = .ok b) ∧
      ∀ cs b, verify_constraints d cs = .ok b → verify_constraints d' cs = .ok b :=
  ⟨check_mono hmore, fun _ _ h => verify_mono hmore h⟩

/-- A speed. -/
def moving : ActionData := ⟨AList.insert "speed" 100 ∅⟩

/-- The same speed with a heading. -/
def moving_north : ActionData := ⟨AList.insert "heading" 0 moving.numeric_values⟩

/-- The heading turns an error into an answer, and leaves the answer about the speed. -/
theorem answers_stable_moving :
    check_constraint moving (.Range "speed" 0 120) = .ok true ∧
      check_constraint moving (.Range "heading" 0 359) = .error (.MissingField "heading") ∧
      check_constraint moving_north (.Range "speed" 0 120) = .ok true ∧
      check_constraint moving_north (.Range "heading" 0 359) = .ok true := by
  have hmore : moving_north.Extends moving := by
    intro field value hfield
    have habsent : moving.get_numeric "heading" = none := by decide
    have hne : field ≠ "heading" := by
      rintro rfl
      rw [habsent] at hfield
      cases hfield
    rw [ActionData.get_numeric, moving_north, AList.lookup_insert_ne hne]
    exact hfield
  have hspeed : check_constraint moving (.Range "speed" 0 120) = .ok true := by decide
  exact ⟨hspeed, by decide, (answers_stable hmore).1 _ _ hspeed, by decide⟩

/-! ## Another order

The order of the conditions decides which of them are looked at, and so whether there is an
answer. But an answer, if there is one, says whether the constraint holds (`check_spec`), and
that is the same for every order. -/

theorem sat_and_iff {d : ActionData} {cs : List Constraint} :
    Sat d (.And cs) ↔ ∀ c ∈ cs, Sat d c := by
  constructor
  · intro h
    cases h with
    | and hall => exact hall
  · exact .and

theorem sat_or_iff {d : ActionData} {cs : List Constraint} :
    Sat d (.Or cs) ↔ ∃ c ∈ cs, Sat d c := by
  constructor
  · intro h
    cases h with
    | or hc hsat => exact ⟨_, hc, hsat⟩
  · rintro ⟨c, hc, hsat⟩
    exact .or hc hsat

/-- The second constraint is the first with the conditions of some of its `And` and `Or`
nodes, at any depths, in another order. -/
inductive Rearranged : Constraint → Constraint → Prop where
  | refl (c : Constraint) : Rearranged c c
  | trans {c₁ c₂ c₃ : Constraint} (h₁ : Rearranged c₁ c₂) (h₂ : Rearranged c₂ c₃) :
      Rearranged c₁ c₃
  | and {cs cs' : List Constraint} (hperm : cs.Perm cs') : Rearranged (.And cs) (.And cs')
  | or {cs cs' : List Constraint} (hperm : cs.Perm cs') : Rearranged (.Or cs) (.Or cs')
  | within_and {c c' : Constraint} (before after : List Constraint) (h : Rearranged c c') :
      Rearranged (.And (before ++ c :: after)) (.And (before ++ c' :: after))
  | within_or {c c' : Constraint} (before after : List Constraint) (h : Rearranged c c') :
      Rearranged (.Or (before ++ c :: after)) (.Or (before ++ c' :: after))

section Replace

variable {P : Constraint → Prop} {c c' : Constraint}

/-- Replacing one condition of a list by one that agrees with it on `P`. -/
theorem forall_mem_replace (before after : List Constraint) (h : P c ↔ P c') :
    (∀ x ∈ before ++ c :: after, P x) ↔ ∀ x ∈ before ++ c' :: after, P x := by
  rw [List.forall_mem_append, List.forall_mem_append, List.forall_mem_cons,
    List.forall_mem_cons, h]

theorem exists_mem_replace (before after : List Constraint) (h : P c ↔ P c') :
    (∃ x ∈ before ++ c :: after, P x) ↔ ∃ x ∈ before ++ c' :: after, P x := by
  simp only [List.mem_append, List.mem_cons, or_and_right, exists_or, exists_eq_left, h]

end Replace

/-- The truth knows no order. -/
theorem Rearranged.sat_iff {d : ActionData} {c c' : Constraint} (h : Rearranged c c') :
    Sat d c ↔ Sat d c' := by
  induction h with
  | refl c => exact Iff.rfl
  | trans _ _ ih₁ ih₂ => exact ih₁.trans ih₂
  | and hperm =>
      -- an `And` asks for every member of its list, wherever it stands
      rw [sat_and_iff, sat_and_iff]
      simp only [hperm.mem_iff]
  | or hperm =>
      rw [sat_or_iff, sat_or_iff]
      simp only [hperm.mem_iff]
  | within_and before after _ ih =>
      rw [sat_and_iff, sat_and_iff]
      exact forall_mem_replace before after ih
  | within_or before after _ ih =>
      rw [sat_or_iff, sat_or_iff]
      exact exists_mem_replace before after ih

/-- A leaf that occurs in an `And` occurs in one of its conditions. -/
theorem occurs_and_iff {leaf : Constraint} (hleaf : leaf.field.isSome) {cs : List Constraint} :
    Occurs leaf (.And cs) ↔ ∃ c ∈ cs, Occurs leaf c := by
  constructor
  · intro h
    cases h with
    | here => cases hleaf
    | and hc hoccurs => exact ⟨_, hc, hoccurs⟩
  · rintro ⟨c, hc, hoccurs⟩
    exact .and hc hoccurs

theorem occurs_or_iff {leaf : Constraint} (hleaf : leaf.field.isSome) {cs : List Constraint} :
    Occurs leaf (.Or cs) ↔ ∃ c ∈ cs, Occurs leaf c := by
  constructor
  · intro h
    cases h with
    | here => cases hleaf
    | or hc hoccurs => exact ⟨_, hc, hoccurs⟩
  · rintro ⟨c, hc, hoccurs⟩
    exact .or hc hoccurs

/-- Rearranging moves the leaves and keeps them. -/
theorem Rearranged.occurs_iff {leaf : Constraint} (hleaf : leaf.field.isSome)
    {c c' : Constraint} (h : Rearranged c c') : Occurs leaf c ↔ Occurs leaf c' := by
  induction h with
  | refl c => exact Iff.rfl
  | trans _ _ ih₁ ih₂ => exact ih₁.trans ih₂
  | and hperm =>
      rw [occurs_and_iff hleaf, occurs_and_iff hleaf]
      simp only [hperm.mem_iff]
  | or hperm =>
      rw [occurs_or_iff hleaf, occurs_or_iff hleaf]
      simp only [hperm.mem_iff]
  | within_and before after _ ih =>
      rw [occurs_and_iff hleaf, occurs_and_iff hleaf]
      exact exists_mem_replace before after ih
  | within_or before after _ ih =>
      rw [occurs_or_iff hleaf, occurs_or_iff hleaf]
      exact exists_mem_replace before after ih

/-- A leaf of a constraint that can be evaluated: its field is present and its operator,
if it has one, is known. -/
def Answerable (d : ActionData) : Constraint → Prop
  | .Range field _ _ => (d.get_numeric field).isSome
  | .Threshold field operator _ => (d.get_numeric field).isSome ∧ operator ∈ known_operators
  | _ => True

/-- An error blames a leaf that cannot be evaluated. -/
theorem Blames.exists_leaf {d : ActionData} {c : Constraint} {e : ZkError} (h : Blames d c e) :
    ∃ leaf, leaf.field.isSome ∧ Occurs leaf c ∧ ¬ Answerable d leaf := by
  cases e with
  | MissingField field =>
      obtain ⟨habsent, leaf, hoccurs, hfield⟩ := h
      refine ⟨leaf, by rw [hfield]; rfl, hoccurs, ?_⟩
      -- the leaf has a field, so it is one of the first two
      cases leaf with
      | Range field' min max =>
          obtain rfl := Option.some.inj hfield
          intro hpresent
          rw [Answerable, habsent] at hpresent
          cases hpresent
      | Threshold field' operator value =>
          obtain rfl := Option.some.inj hfield
          rintro ⟨hpresent, -⟩
          rw [habsent] at hpresent
          cases hpresent
      | And conditions => cases hfield
      | Or conditions => cases hfield
  | InvalidOperator operator =>
      obtain ⟨hop, field, value, hoccurs, -⟩ := h
      exact ⟨_, rfl, hoccurs, fun hanswerable => hop hanswerable.2⟩
  | _ => exact h.elim

/-- A constraint is evaluated to an answer if all its leaves can be. -/
theorem check_ok {d : ActionData} {c : Constraint}
    (hleaves : ∀ leaf, leaf.field.isSome → Occurs leaf c → Answerable d leaf) :
    ∃ b, check_constraint d c = .ok b := by
  have hjudged := check_spec d c
  cases h : check_constraint d c with
  | ok b => exact ⟨b, rfl⟩
  | error e =>
      rw [h] at hjudged
      -- an error would blame a leaf that cannot be evaluated
      obtain ⟨leaf, hleaf, hoccurs, hunanswerable⟩ := Blames.exists_leaf hjudged
      exact absurd (hleaves leaf hleaf hoccurs) hunanswerable

/-- Two answers about constraints that hold of the same actions are the same answer. -/
theorem Judges.agree {d : ActionData} {c c' : Constraint} (hsat : Sat d c ↔ Sat d c')
    {b b' : Bool} (h : Judges d c (.ok b)) (h' : Judges d c' (.ok b')) : b = b' := by
  cases b <;> cases b'
  · rfl
  · exact absurd (hsat.mpr h') h
  · exact absurd (hsat.mp h) h'
  · rfl

/-- **The order of conditions flips no verdict.** Whatever answers there are to a constraint
and to a rearrangement of it are the same, and there are answers to both if every field
is present and every operator known. -/
theorem verdict_order_independent {c c' : Constraint} (h : Rearranged c c') (d : ActionData) :
    (∀ b b', check_constraint d c = .ok b → check_constraint d c' = .ok b' → b = b') ∧
      ((∀ leaf, leaf.field.isSome → Occurs leaf c → Answerable d leaf) →
        ∃ b, check_constraint d c = .ok b ∧ check_constraint d c' = .ok b) := by
  have hagree : ∀ b b', check_constraint d c = .ok b → check_constraint d c' = .ok b' →
      b = b' := by
    intro b b' hb hb'
    have hjudged := check_spec d c
    have hjudged' := check_spec d c'
    rw [hb] at hjudged
    rw [hb'] at hjudged'
    exact Judges.agree h.sat_iff hjudged hjudged'
  refine ⟨hagree, ?_⟩
  intro hleaves
  obtain ⟨b, hb⟩ := check_ok hleaves
  -- the leaves of the second constraint are those of the first
  obtain ⟨b', hb'⟩ := check_ok fun leaf hleaf hoccurs =>
    hleaves leaf hleaf ((h.occurs_iff hleaf).mpr hoccurs)
  exact ⟨b, hb, hagree b b' hb hb' ▸ hb'⟩

/-- The conditions of a node below the root in another order. -/
theorem verdict_order_independent_moving :
    ∃ b, check_constraint moving
        (.And [.Or [.Range "speed" 0 50, .Threshold "speed" "<" (F64.ofInt 120)]]) = .ok b ∧
      check_constraint moving
        (.And [.Or [.Threshold "speed" "<" (F64.ofInt 120), .Range "speed" 0 50]]) = .ok b := by
  have hrearranged := Rearranged.within_and [] []
    (.or (.swap (.Threshold "speed" "<" (F64.ofInt 120)) (.Range "speed" 0 50) []))
  refine (verdict_order_independent hrearranged moving).2 ?_
  intro leaf hleaf hoccurs
  have hspeed : (moving.get_numeric "speed").isSome := by decide
  obtain ⟨node, hnode, hoccurs⟩ := (occurs_and_iff hleaf).mp hoccurs
  rw [List.nil_append, List.mem_singleton] at hnode
  subst hnode
  obtain ⟨cond, hcond, hoccurs⟩ := (occurs_or_iff hleaf).mp hoccurs
  rcases List.mem_pair.mp hcond with rfl | rfl
  · cases hoccurs
    exact hspeed
  · cases hoccurs
    exact ⟨hspeed, by decide⟩

end SovereignEdgeTee
