/-
Short-circuit evaluation of a list of checks that may fail.

`all` asks the checks from the left and stops at the first that is false, `any` stops at
the first that is true, and both stop at the first error. So a later error can be hidden
by an earlier answer, and an answer by an earlier error: what an outcome says about the
list is one-sided except where every check was asked.

`any` is `all` with the answers negated, and its rules are those of `all`.
-/
import Mathlib.Data.List.Basic

set_option autoImplicit false

namespace ShortCircuit

variable {ε α : Type*}

/-- True if every check is; the first false or the first error wins. -/
def all (f : α → Except ε Bool) : List α → Except ε Bool
  | [] => .ok true
  | x :: xs =>
    match f x with
    | .error e => .error e
    | .ok false => .ok false
    | .ok true => all f xs

/-- True if some check is; the first true or the first error wins. -/
def any (f : α → Except ε Bool) : List α → Except ε Bool
  | [] => .ok false
  | x :: xs =>
    match f x with
    | .error e => .error e
    | .ok true => .ok true
    | .ok false => any f xs

/-! ## Conjunctions

The outcomes of `all`, from both sides: true just when every check is true, and any other
outcome is the outcome of some check. The second is not an equivalence, since an earlier check
may have stopped the loop. -/

theorem all_cons_ok {f : α → Except ε Bool} {x : α} {xs : List α} {b : Bool}
    (h : f x = .ok b) : all f (x :: xs) = if b then all f xs else .ok false := by
  rw [all, h]
  cases b <;> rfl

theorem all_cons_error {f : α → Except ε Bool} {x : α} {xs : List α} {e : ε}
    (h : f x = .error e) : all f (x :: xs) = .error e := by
  rw [all, h]

theorem all_eq_true {f : α → Except ε Bool} {xs : List α} :
    all f xs = .ok true ↔ ∀ x ∈ xs, f x = .ok true := by
  induction xs with
  | nil => simp [all]
  | cons x xs ih =>
      rw [List.forall_mem_cons, ← ih]
      cases h : f x with
      | error e => simp [all_cons_error h]
      | ok b => cases b <;> simp [all_cons_ok h]

/-- Any other outcome was the outcome of some check. -/
theorem all_ne_true {f : α → Except ε Bool} {xs : List α} {r : Except ε Bool}
    (h : all f xs = r) (hr : r ≠ .ok true) : ∃ x ∈ xs, f x = r := by
  induction xs with
  | nil => exact absurd h.symm hr
  | cons x xs ih =>
      cases hx : f x with
      | error e =>
          rw [all_cons_error hx] at h
          exact ⟨x, List.mem_cons_self, hx.trans h⟩
      | ok b =>
          rw [all_cons_ok hx] at h
          cases b with
          | false => exact ⟨x, List.mem_cons_self, hx.trans h⟩
          | true =>
              -- the loop went on, so the outcome is that of a later check
              obtain ⟨y, hy, hfy⟩ := ih h
              exact ⟨y, List.mem_cons_of_mem x hy, hfy⟩

/-- Checks that answer what other checks answer, and perhaps more, do so together. -/
theorem all_mono {f g : α → Except ε Bool} {xs : List α}
    (hfg : ∀ x ∈ xs, ∀ b, f x = .ok b → g x = .ok b) {b : Bool} (h : all f xs = .ok b) :
    all g xs = .ok b := by
  induction xs with
  | nil => exact h
  | cons x xs ih =>
      cases hx : f x with
      | error e =>
          rw [all_cons_error hx] at h
          cases h
      | ok c =>
          have hgx : g x = .ok c := hfg x List.mem_cons_self c hx
          rw [all_cons_ok hx] at h
          rw [all_cons_ok hgx]
          cases c with
          | false => exact h
          | true => exact ih (fun y hy => hfg y (List.mem_cons_of_mem x hy)) h

/-! ## Disjunctions

`any` stops where `all` of the opposite answers stops, so each rule about it is the rule about
`all` read through `neg`. -/

/-- The opposite answer. -/
def neg : Except ε Bool → Except ε Bool
  | .ok b => .ok (!b)
  | .error e => .error e

@[simp] theorem neg_neg (r : Except ε Bool) : neg (neg r) = r := by
  cases r with
  | error e => rfl
  | ok b => rw [neg, neg, Bool.not_not]

theorem neg_eq {r s : Except ε Bool} : neg r = s ↔ r = neg s := by
  constructor
  · rintro rfl
    rw [neg_neg]
  · rintro rfl
    rw [neg_neg]

theorem any_eq (f : α → Except ε Bool) (xs : List α) :
    any f xs = neg (all (fun x => neg (f x)) xs) := by
  induction xs with
  | nil => rfl
  | cons x xs ih =>
      rw [any, all, ih]
      cases f x with
      | error e => rfl
      | ok b => cases b <;> rfl

theorem any_eq_false {f : α → Except ε Bool} {xs : List α} :
    any f xs = .ok false ↔ ∀ x ∈ xs, f x = .ok false := by
  rw [any_eq, neg_eq]
  refine all_eq_true.trans ?_
  simp only [neg_eq]
  rfl

theorem any_ne_false {f : α → Except ε Bool} {xs : List α} {r : Except ε Bool}
    (h : any f xs = r) (hr : r ≠ .ok false) : ∃ x ∈ xs, f x = r := by
  rw [any_eq, neg_eq] at h
  have hne : neg r ≠ .ok true := by
    intro hn
    rw [neg_eq] at hn
    exact hr hn
  obtain ⟨x, hx, hfx⟩ := all_ne_true h hne
  rw [neg_eq, neg_neg] at hfx
  exact ⟨x, hx, hfx⟩

theorem any_mono {f g : α → Except ε Bool} {xs : List α}
    (hfg : ∀ x ∈ xs, ∀ b, f x = .ok b → g x = .ok b) {b : Bool} (h : any f xs = .ok b) :
    any g xs = .ok b := by
  rw [any_eq, neg_eq] at h ⊢
  refine all_mono ?_ h
  intro x hx c hc
  rw [neg_eq] at hc ⊢
  exact hfg x hx _ hc

end ShortCircuit
