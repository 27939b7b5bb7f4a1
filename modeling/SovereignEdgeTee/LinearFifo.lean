/-
A bounded first-in first-out queue over storage that is used once.

The queue is filled from one end of its storage to the other. Taking elements out does not
give their room back: only `clear` does. What has gone through such a queue since it was
last cleared is read off the exchanges of a run, and `conservation` says that it accounts
for every element: what was taken out, followed by what is still there, is what was put in.
-/
import SovereignEdgeTee.Mealy
import Mathlib.Data.Nat.Notation

set_option autoImplicit false

namespace LinearFifo

open Mealy

variable {α : Type*}

inductive Call (α : Type*) where
  | put (xs : List α)
  | take (n : ℕ)
  | clear

/-- The room that is left, and the elements in the order they were put in. -/
structure Fifo (α : Type*) where
  room : ℕ
  queue : List α

/-- One call on a queue over `capacity` cells. The reply holds the elements taken out;
there is none if the call asks for more than there is. -/
def step (capacity : ℕ) (self : Fifo α) : Call α → Fifo α × Option (List α)
  | .put xs =>
    if xs.length ≤ self.room then
      (⟨self.room - xs.length, self.queue ++ xs⟩, some [])
    else
      (self, none)
  | .take n =>
    if n ≤ self.queue.length then
      (⟨self.room, self.queue.drop n⟩, some (self.queue.take n))
    else
      (self, none)
  | .clear => (⟨capacity, []⟩, some [])

/-! ## What has gone through the queue

The three folds look at the exchanges only, what was asked and what was replied, and not at
the queue. A call that was refused has the reply `none` and moves nothing in either of them. -/

abbrev Exchange (α : Type*) := Call α × Option (List α)

/-- The elements put in since the last `clear`, given those before the call. -/
def put_by : Exchange α → List α → List α
  | (.clear, _), _ => []
  | (.put xs, some _), before => before ++ xs
  | _, before => before

/-- The elements taken out since the last `clear`, given those before the call. -/
def taken_by : Exchange α → List α → List α
  | (.clear, _), _ => []
  | (.take _, some xs), before => before ++ xs
  | _, before => before

/-- The elements put in since the last `clear`. Exchanges are listed newest first. -/
def put_in (seen : List (Exchange α)) : List α := seen.foldr put_by []

/-- The elements taken out since the last `clear`. -/
def taken_out (seen : List (Exchange α)) : List α := seen.foldr taken_by []

/-- The queue holds what was put in and not taken out, and has the room that is left. -/
structure Conserved (capacity : ℕ) (fifo : Fifo α) (seen : List (Exchange α)) : Prop where
  elements : taken_out seen ++ fifo.queue = put_in seen
  room : fifo.room + (put_in seen).length = capacity

theorem conserved_step {capacity : ℕ} {self : Fifo α} {seen : List (Exchange α)}
    (h : Conserved capacity self seen) (call : Call α) :
    Conserved capacity (step capacity self call).1
      ((call, (step capacity self call).2) :: seen) := by
  obtain ⟨helements, hroom⟩ := h
  cases call with
  | put xs =>
      rw [step]
      by_cases hfits : xs.length ≤ self.room
      · -- what is put in at the end of the queue is the last that was put in
        rw [if_pos hfits]
        refine ⟨?_, ?_⟩
        · show taken_out seen ++ (self.queue ++ xs) = put_in seen ++ xs
          rw [← List.append_assoc, helements]
        · show self.room - xs.length + (put_in seen ++ xs).length = capacity
          rw [List.length_append]
          omega
      · rw [if_neg hfits]
        exact ⟨helements, hroom⟩
  | take n =>
      rw [step]
      by_cases hthere : n ≤ self.queue.length
      · -- elements pass from the queue to those taken out, and no room is given back
        rw [if_pos hthere]
        refine ⟨?_, hroom⟩
        show taken_out seen ++ self.queue.take n ++ self.queue.drop n = put_in seen
        rw [List.append_assoc, List.take_append_drop, helements]
      · rw [if_neg hthere]
        exact ⟨helements, hroom⟩
  | clear => exact ⟨rfl, rfl⟩

/-- **Nothing is lost, added or reordered.** After every run from an empty queue. -/
theorem conservation (capacity : ℕ) (calls : List (Call α)) :
    Conserved capacity (exec (step capacity) ⟨capacity, []⟩ calls).1
      (exchanges (exec (step capacity) ⟨capacity, []⟩ calls).2) := by
  refine exec_induction (step capacity)
    (I := fun self log => Conserved capacity self (exchanges log)) ⟨rfl, rfl⟩ ?_ calls
  intro self log call h
  exact conserved_step h call

end LinearFifo
