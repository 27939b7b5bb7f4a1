/-
`while` loops that come to an end.

A loop is its condition, a body that may fail, break or go on, and a measure that every
round that goes on makes smaller. The measure is a part of the loop, so every loop of
this file ends, and `run` is a plain function. What a loop establishes is proved by
`run_ok`, the rule of the invariant with two ways out: the condition, and a break.
-/
import Mathlib.Data.Nat.Notation

set_option autoImplicit false

/-- A `while` loop on a state, whose body fails with an error, breaks (`done`) or goes on
(`yield`). -/
structure BoundedLoop (σ ε : Type*) where
  cond : σ → Bool
  body : σ → Except ε (ForInStep σ)
  measure : σ → ℕ
  decreases : ∀ s t, cond s = true → body s = .ok (.yield t) → measure t < measure s

namespace BoundedLoop

variable {σ ε : Type*}

/-- Runs the loop to its end: the condition is looked at before every round, an error of the body
is the error of the loop, and a break leaves with the state the body hands out. -/
def run (loop : BoundedLoop σ ε) (s : σ) : Except ε σ :=
  if hcond : loop.cond s = true then
    match hbody : loop.body s with
    | .error e => .error e
    | .ok (.done t) => .ok t
    | .ok (.yield t) =>
      have : loop.measure t < loop.measure s := loop.decreases s t hcond hbody
      loop.run t
  else .ok s
termination_by loop.measure s

variable {loop : BoundedLoop σ ε} {s t : σ}

theorem run_of_not_cond (hcond : loop.cond s = false) : loop.run s = .ok s := by
  rw [run, dif_neg (by rw [hcond]; exact Bool.false_ne_true)]

/-- One round. -/
theorem run_of_cond (hcond : loop.cond s = true) :
    loop.run s =
      match loop.body s with
      | .error e => .error e
      | .ok (.done t) => .ok t
      | .ok (.yield t) => loop.run t := by
  rw [run, dif_pos hcond]
  split <;> rename_i hbody <;> simp only [hbody]

theorem run_error {e : ε} (hcond : loop.cond s = true) (hbody : loop.body s = .error e) :
    loop.run s = .error e := by
  rw [run_of_cond hcond, hbody]

theorem run_done (hcond : loop.cond s = true) (hbody : loop.body s = .ok (.done t)) :
    loop.run s = .ok t := by
  rw [run_of_cond hcond, hbody]

theorem run_yield (hcond : loop.cond s = true) (hbody : loop.body s = .ok (.yield t)) :
    loop.run s = loop.run t := by
  rw [run_of_cond hcond, hbody]

/-- **The rule of the invariant.** A round that goes on keeps `I`; from `I`, the condition
failing and a break both lead to `P`. Then a loop that starts with `I` ends with `P`, if it
does not fail. -/
theorem run_ok {I P : σ → Prop}
    (hyield : ∀ s t, I s → loop.cond s = true → loop.body s = .ok (.yield t) → I t)
    (hdone : ∀ s t, I s → loop.cond s = true → loop.body s = .ok (.done t) → P t)
    (hend : ∀ s, I s → loop.cond s = false → P s)
    (hs : I s) (hrun : loop.run s = .ok t) : P t := by
  -- the induction is on the measure, for all states it is the measure of
  induction hm : loop.measure s using Nat.strongRecOn generalizing s with
  | ind m ih =>
      subst hm
      by_cases hcond : loop.cond s = true
      · rcases hbody : loop.body s with e | stopped | next
        · rw [run_error hcond hbody] at hrun
          cases hrun
        · rw [run_done hcond hbody] at hrun
          rw [← Except.ok.inj hrun]
          exact hdone s stopped hs hcond hbody
        · rw [run_yield hcond hbody] at hrun
          exact ih _ (loop.decreases s next hcond hbody) (hyield s next hs hcond hbody) hrun rfl
      · rw [Bool.not_eq_true] at hcond
        rw [run_of_not_cond hcond] at hrun
        rw [← Except.ok.inj hrun]
        exact hend s hs hcond

end BoundedLoop
