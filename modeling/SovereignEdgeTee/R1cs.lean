/-
Rank-one constraint systems over a semiring, as a circuit builds them.

A system has the values of its public inputs, of which the first is the constant one,
and constraints `a * b = c` between linear combinations of them. A variable is the
position of an input. A builder only appends: inputs and constraints, never the other
way round, so a constraint keeps its meaning while the system grows (`Scoped`).

`shape` is what a set-up of keys sees of a system: how many inputs it has, and its
constraints, but not the values.
-/
import Mathlib.Algebra.BigOperators.Group.List.Basic
import Mathlib.Algebra.Ring.Defs
import Mathlib.Data.List.GetD

set_option autoImplicit false

namespace R1cs

variable {F : Type*} [Semiring F]

/-- A linear combination: coefficients and variables. -/
abbrev LinearCombination (F : Type*) := List (F × ℕ)

/-- The combination of one variable. -/
def LinearCombination.of (F : Type*) [Semiring F] (v : ℕ) : LinearCombination F := [(1, v)]

/-- `a * b = c`. -/
structure Constraint (F : Type*) where
  a : LinearCombination F
  b : LinearCombination F
  c : LinearCombination F
deriving DecidableEq

structure ConstraintSystem (F : Type*) where
  inputs : List F
  constraints : List (Constraint F)

/-- The value of a combination under an assignment of the inputs. -/
def LinearCombination.eval (lc : LinearCombination F) (inputs : List F) : F :=
  (lc.map fun t => t.1 * inputs.getD t.2 0).sum

/-- The constraint holds under an assignment of the inputs. -/
def Constraint.Holds (k : Constraint F) (inputs : List F) : Prop :=
  k.a.eval inputs * k.b.eval inputs = k.c.eval inputs

namespace ConstraintSystem

/-- The empty system. -/
def new (F : Type*) [Semiring F] : ConstraintSystem F := ⟨[1], []⟩

/-- A new public input, and the variable it is. -/
def new_input_variable (cs : ConstraintSystem F) (value : F) : ℕ × ConstraintSystem F :=
  (cs.inputs.length, { cs with inputs := cs.inputs ++ [value] })

def enforce (cs : ConstraintSystem F) (a b c : LinearCombination F) : ConstraintSystem F :=
  { cs with constraints := cs.constraints ++ [⟨a, b, c⟩] }

/-- The assignment of the system satisfies its constraints. -/
def Satisfied (cs : ConstraintSystem F) : Prop := ∀ k ∈ cs.constraints, k.Holds cs.inputs

/-- What does not depend on the values of the inputs. -/
def shape (cs : ConstraintSystem F) : ℕ × List (Constraint F) :=
  (cs.inputs.length, cs.constraints)

/-- Every constraint mentions inputs that exist. -/
def Scoped (cs : ConstraintSystem F) : Prop :=
  ∀ k ∈ cs.constraints, ∀ t ∈ k.a ++ k.b ++ k.c, t.2 < cs.inputs.length

end ConstraintSystem

/-! ## Growing a system

A builder may enforce a constraint long before the last input is added. `Scoped` is what makes
that harmless: a constraint over old inputs has the same value under the longer assignment, so
a system that is satisfied stays so, input by input and constraint by constraint. -/

theorem eval_of (v : ℕ) (inputs : List F) :
    (LinearCombination.of F v).eval inputs = inputs.getD v 0 := by
  simp [LinearCombination.of, LinearCombination.eval]

/-- A combination of old inputs keeps its value when an input is added. -/
theorem eval_append {lc : LinearCombination F} {inputs : List F} (value : F)
    (h : ∀ t ∈ lc, t.2 < inputs.length) : lc.eval (inputs ++ [value]) = lc.eval inputs := by
  unfold LinearCombination.eval
  refine congrArg List.sum (List.map_congr_left ?_)
  intro t ht
  rw [List.getD_append _ _ _ _ (h t ht)]

theorem satisfied_new_input {cs : ConstraintSystem F} (value : F) (hscoped : cs.Scoped)
    (h : cs.Satisfied) : (cs.new_input_variable value).2.Satisfied := by
  intro k hk
  have hin := hscoped k hk
  simp only [List.mem_append] at hin
  -- none of the three combinations mentions the new input
  have ha := eval_append value fun t ht => hin t (Or.inl (Or.inl ht))
  have hb := eval_append value fun t ht => hin t (Or.inl (Or.inr ht))
  have hc := eval_append value fun t ht => hin t (Or.inr ht)
  have hold := h k hk
  unfold Constraint.Holds at hold ⊢
  simp only [ConstraintSystem.new_input_variable]
  rw [ha, hb, hc, hold]

omit [Semiring F] in
theorem scoped_new_input {cs : ConstraintSystem F} (value : F) (hscoped : cs.Scoped) :
    (cs.new_input_variable value).2.Scoped := by
  intro k hk t ht
  have hlt := hscoped k hk t ht
  simp only [ConstraintSystem.new_input_variable, List.length_append, List.length_singleton]
  omega

theorem satisfied_enforce {cs : ConstraintSystem F} {a b c : LinearCombination F}
    (h : cs.Satisfied) (hk : a.eval cs.inputs * b.eval cs.inputs = c.eval cs.inputs) :
    (cs.enforce a b c).Satisfied := by
  intro k hmem
  rcases List.mem_append.mp hmem with hmem | hmem
  · exact h k hmem
  · rw [List.mem_singleton.mp hmem]
    exact hk

omit [Semiring F] in
theorem scoped_enforce {cs : ConstraintSystem F} {a b c : LinearCombination F}
    (hscoped : cs.Scoped) (hin : ∀ t ∈ a ++ b ++ c, t.2 < cs.inputs.length) :
    (cs.enforce a b c).Scoped := by
  intro k hmem
  rcases List.mem_append.mp hmem with hmem | hmem
  · exact hscoped k hmem
  · rw [List.mem_singleton.mp hmem]
    exact hin

end R1cs
