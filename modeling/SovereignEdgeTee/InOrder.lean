/-
A receiver that takes a list of items in their order.

It waits for the first item it has not taken, takes that when it arrives, and lets everything
else pass. What it has taken is always the beginning of the list, and it is as long a
beginning as there is in the arrivals, in order, with anything in between. So for what the
receiver ends up with, an item that comes too late, too early or twice is as good as none.
-/
import Mathlib.Data.List.Basic

set_option autoImplicit false

namespace InOrder

variable {α β : Type*} [DecidableEq α]

/-- What the receiver makes of each arrival: the value of the item, or nothing. -/
def receive : List (α × β) → List α → List (Option β)
  | _, [] => []
  | [], _ :: arrivals => none :: receive [] arrivals
  | x :: expected, y :: arrivals =>
    if y = x.1 then some x.2 :: receive expected arrivals
    else none :: receive (x :: expected) arrivals

/-- What it has taken. -/
def taken (expected : List (α × β)) (arrivals : List α) : List β :=
  (receive expected arrivals).filterMap id

variable {x : α × β} {expected : List (α × β)} {y : α} {arrivals : List α}

theorem taken_nil : taken expected ([] : List α) = [] := by
  rw [taken, receive]
  rfl

theorem taken_of_nil : taken ([] : List (α × β)) arrivals = [] := by
  induction arrivals with
  | nil => exact taken_nil
  | cons y arrivals ih =>
      rw [taken, receive, List.filterMap_cons_none rfl]
      exact ih

theorem taken_cons_eq (h : y = x.1) :
    taken (x :: expected) (y :: arrivals) = x.2 :: taken expected arrivals := by
  rw [taken, receive, if_pos h]
  rfl

theorem taken_cons_ne (h : y ≠ x.1) :
    taken (x :: expected) (y :: arrivals) = taken (x :: expected) arrivals := by
  rw [taken, receive, if_neg h, List.filterMap_cons_none rfl]
  rfl

/-! ## What is taken

Two statements say what the receiver ends up with, one that it takes nothing else and one that
it misses nothing it could have taken. -/

/-- **Nothing out of order.** What is taken is a beginning of what was expected. -/
theorem taken_prefix : taken expected arrivals <+: expected.map Prod.snd := by
  induction arrivals generalizing expected with
  | nil =>
      rw [taken_nil]
      exact List.nil_prefix
  | cons y arrivals ih =>
      cases expected with
      | nil =>
          rw [taken_of_nil]
          exact List.nil_prefix
      | cons x expected =>
          by_cases h : y = x.1
          · rw [taken_cons_eq h, List.map_cons, List.prefix_cons_inj]
            exact ih
          · rw [taken_cons_ne h]
            exact ih

/-- **Nothing left out.** At least `k` items are taken just when the first `k` are among the
arrivals, in order. The induction is on the arrivals: the one that is waited for is the first
of every such sublist, and another one is in none of them. -/
theorem le_length_taken_iff {k : ℕ} (hk : k ≤ expected.length) :
    k ≤ (taken expected arrivals).length ↔
      ((expected.take k).map Prod.fst).Sublist arrivals := by
  induction arrivals generalizing expected k with
  | nil =>
      rw [taken_nil, List.sublist_nil, List.map_eq_nil_iff, List.take_eq_nil_iff, List.length_nil,
        Nat.le_zero]
      constructor
      · exact Or.inl
      · rintro (hzero | hnil)
        · exact hzero
        · rw [hnil] at hk
          exact Nat.le_zero.mp hk
  | cons y arrivals ih =>
      cases expected with
      | nil =>
          rw [Nat.le_zero.mp hk]
          exact iff_of_true (Nat.zero_le _) (List.nil_sublist _)
      | cons x expected =>
          cases k with
          | zero => exact iff_of_true (Nat.zero_le _) (List.nil_sublist _)
          | succ k =>
              rw [List.take_succ_cons, List.map_cons]
              by_cases h : y = x.1
              · -- the one that is waited for: one less to take, and one less to find
                rw [taken_cons_eq h, List.length_cons, h, List.cons_sublist_cons,
                  Nat.succ_le_succ_iff]
                exact ih (Nat.le_of_succ_le_succ hk)
              · -- no sublist that begins with the one that is waited for has this one first
                rw [taken_cons_ne h, List.cons_sublist_cons', or_iff_left (fun hx => h hx.1.symm),
                  ih hk, List.take_succ_cons, List.map_cons]

end InOrder
