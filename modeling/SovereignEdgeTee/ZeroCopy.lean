/-
`ZeroCopyBuffer` of the helpers crate: a vector with a write cursor and a read cursor.

Both cursors are moved behind a check of the form `pos + count > limit`. The release
profile does not check sums for overflow, so a `count` near `2 ^ 64` wraps the sum round to
a number below the limit, passes the check, and moves the cursor back. `advance_write_spec`
and `advance_read_spec` say what each call does on every `count`: it works as it should
unless its sum wraps, and then it never does.

A `usize` is a `UInt64`, whose sums and differences wrap as those of the release profile do.
-/
import SovereignEdgeTee.Mealy
import Mathlib.Algebra.Group.Nat.Defs

set_option autoImplicit false

namespace SovereignEdgeTee

open Mealy

inductive HelperError where
  | InvalidConfig (msg : String)
  | BufferError (msg : String)
  | MetricsError (msg : String)
  deriving Repr, DecidableEq

structure ZeroCopyBuffer where
  data : List UInt8
  capacity : UInt64
  read_pos : UInt64
  write_pos : UInt64
  deriving Repr, DecidableEq

/-- A call that moves a cursor. -/
inductive CursorCall where
  | advance_write (count : UInt64)
  | advance_read (count : UInt64)
  | reset
  deriving Repr, DecidableEq

namespace ZeroCopyBuffer

/-- An allocation that fails ends the process, so there is a buffer only where it succeeds. -/
def with_capacity (capacity : UInt64) : ZeroCopyBuffer where
  data := List.replicate capacity.toNat 0
  capacity := capacity
  read_pos := 0
  write_pos := 0

/-- `self.data[self.write_pos..]`, which panics beyond the end of the vector. -/
def write_slice (self : ZeroCopyBuffer) : Option (List UInt8) :=
  if self.write_pos.toNat ≤ self.data.length then
    some (self.data.drop self.write_pos.toNat)
  else
    none

/-- `self.data[self.read_pos..self.write_pos]`, which panics on a range that is out of order
or beyond the end of the vector. -/
def read_slice (self : ZeroCopyBuffer) : Option (List UInt8) :=
  if self.read_pos ≤ self.write_pos ∧ self.write_pos.toNat ≤ self.data.length then
    some ((self.data.take self.write_pos.toNat).drop self.read_pos.toNat)
  else
    none

def advance_write (self : ZeroCopyBuffer) (count : UInt64) :
    ZeroCopyBuffer × Except HelperError Unit :=
  if self.write_pos + count > self.capacity then
    (self, .error (.BufferError "Write would exceed buffer capacity"))
  else
    ({ self with write_pos := self.write_pos + count }, .ok ())

def advance_read (self : ZeroCopyBuffer) (count : UInt64) :
    ZeroCopyBuffer × Except HelperError Unit :=
  if self.read_pos + count > self.write_pos then
    (self, .error (.BufferError "Read would exceed written data"))
  else
    ({ self with read_pos := self.read_pos + count }, .ok ())

def reset (self : ZeroCopyBuffer) : ZeroCopyBuffer :=
  { self with read_pos := 0, write_pos := 0 }

def write_available (self : ZeroCopyBuffer) : UInt64 := self.capacity - self.write_pos

def read_available (self : ZeroCopyBuffer) : UInt64 := self.write_pos - self.read_pos

/-- One call. `reset` returns nothing, which is written `.ok ()`. -/
def step (self : ZeroCopyBuffer) : CursorCall → ZeroCopyBuffer × Except HelperError Unit
  | .advance_write count => self.advance_write count
  | .advance_read count => self.advance_read count
  | .reset => (self.reset, .ok ())

/-- `read_pos <= write_pos <= capacity = data.len()`. -/
structure WellFormed (buf : ZeroCopyBuffer) : Prop where
  in_order : buf.read_pos ≤ buf.write_pos
  in_bounds : buf.write_pos ≤ buf.capacity
  length : buf.data.length = buf.capacity.toNat

/-- What a caller relies on when it looks at the buffer: neither slice panics, and neither
difference underflows. -/
structure Readable (buf : ZeroCopyBuffer) : Prop where
  write_slice : buf.write_slice.isSome = true
  read_slice : buf.read_slice.isSome = true
  write_available : buf.write_available.toNat + buf.write_pos.toNat = buf.capacity.toNat
  read_available : buf.read_available.toNat + buf.read_pos.toNat = buf.write_pos.toNat

theorem with_capacity_wellFormed (capacity : UInt64) : (with_capacity capacity).WellFormed :=
  ⟨UInt64.le_refl 0, UInt64.zero_le, List.length_replicate⟩

/-- A buffer whose cursors are in order can be looked at. -/
theorem WellFormed.readable {self : ZeroCopyBuffer} (h : self.WellFormed) : self.Readable := by
  obtain ⟨horder, hbounds, hlength⟩ := h
  have hread : self.read_pos.toNat ≤ self.write_pos.toNat := UInt64.le_iff_toNat_le.mp horder
  have hwrite : self.write_pos.toNat ≤ self.capacity.toNat := UInt64.le_iff_toNat_le.mp hbounds
  have hvec : self.write_pos.toNat ≤ self.data.length := by omega
  refine ⟨?_, ?_, ?_, ?_⟩
  · rw [ZeroCopyBuffer.write_slice, if_pos hvec]
    rfl
  · rw [ZeroCopyBuffer.read_slice, if_pos ⟨horder, hvec⟩]
    rfl
  · rw [ZeroCopyBuffer.write_available, UInt64.toNat_sub_of_le _ _ hbounds]
    omega
  · rw [ZeroCopyBuffer.read_available, UInt64.toNat_sub_of_le _ _ horder]
    omega

/-! ## The bound check

`pos` is a cursor, `limit` what it must not pass. -/

section BoundCheck

variable {pos count limit : UInt64}

/-- A sum that fits is checked as it should be. -/
theorem bound_check (hpos : pos ≤ limit) (hfits : pos.toNat + count.toNat < 2 ^ 64) :
    pos + count > limit ↔ count > limit - pos := by
  have hle : pos.toNat ≤ limit.toNat := UInt64.le_iff_toNat_le.mp hpos
  have hsum : (pos + count).toNat = pos.toNat + count.toNat := by
    rw [UInt64.toNat_add, Nat.mod_eq_of_lt hfits]
  rw [gt_iff_lt, gt_iff_lt, UInt64.lt_iff_toNat_lt, UInt64.lt_iff_toNat_lt, hsum,
    UInt64.toNat_sub_of_le _ _ hpos]
  omega

/-- A sum that wraps passes the check, though the count is beyond what is available. -/
theorem bound_check_wrapped (hpos : pos ≤ limit) (hwraps : 2 ^ 64 ≤ pos.toNat + count.toNat) :
    ¬ pos + count > limit ∧ count > limit - pos := by
  have hle : pos.toNat ≤ limit.toNat := UInt64.le_iff_toNat_le.mp hpos
  have hlimit : limit.toNat < 2 ^ 64 := limit.toNat_lt
  have hcount : count.toNat < 2 ^ 64 := count.toNat_lt
  have hsum : (pos + count).toNat = pos.toNat + count.toNat - 2 ^ 64 := by
    rw [UInt64.toNat_add]
    omega
  rw [gt_iff_lt, gt_iff_lt, UInt64.lt_iff_toNat_lt, UInt64.lt_iff_toNat_lt,
    hsum, UInt64.toNat_sub_of_le _ _ hpos]
  omega

/-- A sum that fits and passes the check is between the cursor and its limit. -/
theorem bound_check_passed (hfits : pos.toNat + count.toNat < 2 ^ 64)
    (hcheck : ¬ pos + count > limit) : pos ≤ pos + count ∧ pos + count ≤ limit := by
  refine ⟨?_, UInt64.not_lt.mp hcheck⟩
  rw [UInt64.le_iff_toNat_le, UInt64.toNat_add, Nat.mod_eq_of_lt hfits]
  exact Nat.le_add_right _ _

end BoundCheck

/-! ## One call

`Checked` is the contract of a call and `Fits` the condition on its count. A call whose sum
fits keeps the contract, and one whose sum wraps breaks it in the last clause, since it
succeeds with a count that is more than what there is. -/

abbrev CursorEntry := Entry ZeroCopyBuffer CursorCall (Except HelperError Unit)

/-- The count of the call is more than what is available to it. -/
def Exceeds (self : ZeroCopyBuffer) : CursorCall → Prop
  | .advance_write count => count > self.write_available
  | .advance_read count => count > self.read_available
  | .reset => False

/-- The sum the call computes, if it computes one, stays below `2 ^ 64`. -/
def Fits (self : ZeroCopyBuffer) : CursorCall → Prop
  | .advance_write count => self.write_pos.toNat + count.toNat < 2 ^ 64
  | .advance_read count => self.read_pos.toNat + count.toNat < 2 ^ 64
  | .reset => True

/-- The buffer after the step. -/
def after (e : CursorEntry) : ZeroCopyBuffer := (e.before.step e.input).1

/-- The step does what the checks of the source are for: only `reset` moves a cursor back,
a call that fails changes nothing, and a call fails just when its count is more than what
is available. -/
structure Checked (e : CursorEntry) : Prop where
  forward : e.input ≠ .reset →
    e.before.read_pos ≤ (after e).read_pos ∧ e.before.write_pos ≤ (after e).write_pos
  unchanged : ∀ error, e.output = .error error → after e = e.before
  rejected : (∃ error, e.output = .error error) ↔ e.before.Exceeds e.input

variable {self next : ZeroCopyBuffer} {call : CursorCall}

theorem Checked.of_error {error : HelperError} (hstep : self.step call = (self, .error error))
    (hover : self.Exceeds call) : Checked (entry step self call) := by
  refine ⟨?_, ?_, ?_⟩
  · intro _
    rw [after, entry, hstep]
    exact ⟨UInt64.le_refl _, UInt64.le_refl _⟩
  · intro _ _
    rw [after, entry, hstep]
  · rw [entry, hstep]
    exact ⟨fun _ => hover, fun _ => ⟨error, rfl⟩⟩

theorem Checked.of_ok (hstep : self.step call = (next, .ok ()))
    (hforward : call ≠ .reset →
      self.read_pos ≤ next.read_pos ∧ self.write_pos ≤ next.write_pos)
    (hwithin : ¬ self.Exceeds call) : Checked (entry step self call) := by
  refine ⟨?_, ?_, ?_⟩
  · rw [after, entry, hstep]
    exact hforward
  · intro _ herror
    rw [entry, hstep] at herror
    cases herror
  · rw [entry, hstep]
    refine ⟨?_, fun hover => absurd hover hwithin⟩
    rintro ⟨_, herror⟩
    cases herror

/-- A call whose sum fits keeps the cursors in order and does what it should. -/
theorem step_fits (h : self.WellFormed) (call : CursorCall) (hfits : self.Fits call) :
    (self.step call).1.WellFormed ∧ Checked (entry step self call) := by
  cases call with
  | advance_write count =>
      -- the check of the source compares a sum, the contract a difference
      have hcheck := bound_check h.in_bounds hfits
      by_cases hover : self.write_pos + count > self.capacity
      · have hstep : self.step (.advance_write count)
            = (self, .error (.BufferError "Write would exceed buffer capacity")) := if_pos hover
        refine ⟨?_, Checked.of_error hstep (hcheck.mp hover)⟩
        rw [hstep]
        exact h
      · have hstep : self.step (.advance_write count)
            = ({ self with write_pos := self.write_pos + count }, .ok ()) := if_neg hover
        obtain ⟨hforward, hbounds⟩ := bound_check_passed hfits hover
        refine ⟨?_, Checked.of_ok hstep ?_ fun hcount => hover (hcheck.mpr hcount)⟩
        · rw [hstep]
          exact ⟨UInt64.le_trans h.in_order hforward, hbounds, h.length⟩
        · intro _
          exact ⟨UInt64.le_refl _, hforward⟩
  | advance_read count =>
      have hcheck := bound_check h.in_order hfits
      by_cases hover : self.read_pos + count > self.write_pos
      · have hstep : self.step (.advance_read count)
            = (self, .error (.BufferError "Read would exceed written data")) := if_pos hover
        refine ⟨?_, Checked.of_error hstep (hcheck.mp hover)⟩
        rw [hstep]
        exact h
      · have hstep : self.step (.advance_read count)
            = ({ self with read_pos := self.read_pos + count }, .ok ()) := if_neg hover
        obtain ⟨hforward, horder⟩ := bound_check_passed hfits hover
        refine ⟨?_, Checked.of_ok hstep ?_ fun hcount => hover (hcheck.mpr hcount)⟩
        · rw [hstep]
          exact ⟨horder, h.in_bounds, h.length⟩
        · intro _
          exact ⟨hforward, UInt64.le_refl _⟩
  | reset =>
      refine ⟨⟨UInt64.le_refl _, UInt64.zero_le, h.length⟩, ?_⟩
      exact Checked.of_ok rfl (fun hcall => absurd rfl hcall) id

/-- A call whose sum wraps goes through, though its count is more than what is available. -/
theorem step_wraps (h : self.WellFormed) (call : CursorCall) (hwraps : ¬ self.Fits call) :
    (self.step call).2 = .ok () ∧ self.Exceeds call := by
  cases call with
  | advance_write count =>
      obtain ⟨hpasses, hover⟩ := bound_check_wrapped h.in_bounds (Nat.le_of_not_lt hwraps)
      have hstep : self.step (.advance_write count)
          = ({ self with write_pos := self.write_pos + count }, .ok ()) := if_neg hpasses
      exact ⟨congrArg Prod.snd hstep, hover⟩
  | advance_read count =>
      obtain ⟨hpasses, hover⟩ := bound_check_wrapped h.in_order (Nat.le_of_not_lt hwraps)
      have hstep : self.step (.advance_read count)
          = ({ self with read_pos := self.read_pos + count }, .ok ()) := if_neg hpasses
      exact ⟨congrArg Prod.snd hstep, hover⟩
  | reset => exact absurd trivial hwraps

/-- A call does what it should just when its sum fits. -/
theorem checked_iff_fits (h : self.WellFormed) (call : CursorCall) :
    Checked (entry step self call) ↔ self.Fits call := by
  refine ⟨?_, fun hfits => (step_fits h call hfits).2⟩
  intro hchecked
  -- a wrapped call succeeds, and the contract would have it fail
  by_contra hwraps
  obtain ⟨hok, hover⟩ := step_wraps h call hwraps
  obtain ⟨error, herror⟩ := hchecked.rejected.mpr hover
  rw [entry, hok] at herror
  cases herror

/-! ## Runs

The library has the shape of the result (`always_iff_guarded`): if a step keeps the invariant
exactly when it meets its condition, then the invariant holds all along a run exactly when
every step of it does. -/

/-- The buffer can be looked at, its cursors are in order, and every call so far did what
it should. -/
structure Sound (buf : ZeroCopyBuffer) (log : List CursorEntry) : Prop where
  well_formed : buf.WellFormed
  readable : buf.Readable
  checked : ∀ e ∈ log, Checked e

/-- **The invariant of the buffer.** It holds all along a run just when no call of the run
is given a count that wraps its sum around. -/
theorem zero_copy_invariant_iff (capacity : UInt64) (calls : List CursorCall) :
    (∀ earlier, earlier <+: calls →
      Sound (exec step (with_capacity capacity) earlier).1
        (exec step (with_capacity capacity) earlier).2) ↔
      Guarded (fun _ e => e.before.Fits e.input)
        (exec step (with_capacity capacity) calls).2 := by
  refine always_iff_guarded step ?_ ?_ calls
  · have hstart := with_capacity_wellFormed capacity
    exact ⟨hstart, hstart.readable, fun e he => absurd he List.not_mem_nil⟩
  · intro self log call h
    -- the last step alone decides: what it leaves can be looked at if it kept the cursors in
    -- order, and it kept to its contract just when its sum fits
    constructor
    · intro hnext
      exact (checked_iff_fits h.well_formed call).mp (hnext.checked _ List.mem_cons_self)
    · intro hfits
      obtain ⟨hwell, hchecked⟩ := step_fits h.well_formed call hfits
      refine ⟨hwell, hwell.readable, ?_⟩
      intro e he
      rcases List.mem_cons.mp he with rfl | he
      · exact hchecked
      · exact h.checked e he

/-- A buffer of eight bytes that has been filled and emptied is told to advance by
`2 ^ 64 - 4`. The call succeeds and leaves the write cursor at four, behind the read
cursor: `read_slice` panics from then on. -/
theorem zero_copy_cursors_cross :
    ¬ ∀ (capacity : UInt64) (calls : List CursorCall) (earlier : List CursorCall),
      earlier <+: calls →
      Sound (exec step (with_capacity capacity) earlier).1
        (exec step (with_capacity capacity) earlier).2 := by
  intro h
  have hsound := h 8 [.advance_write 8, .advance_read 8, .advance_write (0 - 4)] _
    (List.prefix_refl _)
  have horder := hsound.well_formed.in_order
  revert horder
  decide +kernel

end ZeroCopyBuffer

end SovereignEdgeTee
