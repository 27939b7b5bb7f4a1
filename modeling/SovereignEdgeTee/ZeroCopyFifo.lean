/-
`ZeroCopyBuffer` with the bytes that go through it: a client that copies what it has into
`write_slice` and takes what it reads from `read_slice`, and moves the cursor by as much.

Such a client never asks for more than a slice holds, so no sum wraps, and the buffer is a
bounded queue over storage that is used once, `LinearFifo`: the unread bytes are the queue,
and a byte that has been read gives no room back before the next `reset`.
-/
import SovereignEdgeTee.LinearFifo
import SovereignEdgeTee.ZeroCopy

set_option autoImplicit false

namespace SovereignEdgeTee

open Mealy

/-- What the client does. -/
inductive FifoCall where
  | produce (bs : List UInt8)
  | consume (n : UInt64)
  | reset
  deriving Repr, DecidableEq

/-- The bytes taken out and what the advance returned. There is no reply to a call that the
client may not make. -/
abbrev FifoReply := Option (List UInt8 × Except HelperError Unit)

namespace ZeroCopyBuffer

/-- `self.write_slice()[..bs.len()].copy_from_slice(bs)`, where `bs` fits. -/
def fill (self : ZeroCopyBuffer) (bs : List UInt8) : Option ZeroCopyBuffer :=
  match self.write_slice with
  | none => none
  | some room =>
    if bs.length ≤ room.length then
      some { self with
        data := self.data.take self.write_pos.toNat ++ (bs ++ room.drop bs.length) }
    else
      none

def produce (self : ZeroCopyBuffer) (bs : List UInt8) :
    Option (ZeroCopyBuffer × Except HelperError Unit) :=
  (self.fill bs).map fun filled => filled.advance_write (UInt64.ofNat bs.length)

/-- `self.read_slice()[..n].to_vec()` and `self.advance_read(n)`, where there are `n` bytes
to read. -/
def consume (self : ZeroCopyBuffer) (n : UInt64) :
    Option (List UInt8 × ZeroCopyBuffer × Except HelperError Unit) :=
  match self.read_slice with
  | none => none
  | some unread =>
    if n.toNat ≤ unread.length then some (unread.take n.toNat, self.advance_read n) else none

/-- One call of the client. A call it may not make is not made. -/
def fifo_step (self : ZeroCopyBuffer) : FifoCall → ZeroCopyBuffer × FifoReply
  | .produce bs =>
    match self.produce bs with
    | none => (self, none)
    | some (next, result) => (next, some ([], result))
  | .consume n =>
    match self.consume n with
    | none => (self, none)
    | some (bytes, next, result) => (next, some (bytes, result))
  | .reset => (self.reset, some ([], .ok ()))

/-- The client may make the call: the bytes fit into `write_slice`, or there are as many in
`read_slice`. -/
def Allowed (self : ZeroCopyBuffer) : FifoCall → Prop
  | .produce bs => ∃ room, self.write_slice = some room ∧ bs.length ≤ room.length
  | .consume n => ∃ unread, self.read_slice = some unread ∧ n.toNat ≤ unread.length
  | .reset => True

/-! ## The slices and the advances

The lemmas are about a buffer whose cursors are in order. They say what the slices are, that a
copy into the room changes nothing before it, and that a cursor moved within what is available
does not wrap around. -/

variable {self : ZeroCopyBuffer}

/-- The slices of a buffer whose cursors are in order. -/
theorem WellFormed.write_slice_eq (h : self.WellFormed) :
    self.write_slice = some (self.data.drop self.write_pos.toNat) ∧
      (self.data.drop self.write_pos.toNat).length = self.write_available.toNat := by
  have hwrite : self.write_pos.toNat ≤ self.capacity.toNat :=
    UInt64.le_iff_toNat_le.mp h.in_bounds
  have hlength := h.length
  refine ⟨if_pos (by omega), ?_⟩
  rw [List.length_drop, write_available, UInt64.toNat_sub_of_le _ _ h.in_bounds, hlength]

theorem WellFormed.read_slice_eq (h : self.WellFormed) :
    self.read_slice
      = some ((self.data.take self.write_pos.toNat).drop self.read_pos.toNat) := by
  have hwrite : self.write_pos.toNat ≤ self.capacity.toNat :=
    UInt64.le_iff_toNat_le.mp h.in_bounds
  have hlength := h.length
  exact if_pos ⟨h.in_order, by omega⟩

/-- As many bytes can be read as there are between the cursors. -/
theorem WellFormed.unread_length (h : self.WellFormed) :
    ((self.data.take self.write_pos.toNat).drop self.read_pos.toNat).length
      = self.write_pos.toNat - self.read_pos.toNat := by
  have hwrite : self.write_pos.toNat ≤ self.capacity.toNat :=
    UInt64.le_iff_toNat_le.mp h.in_bounds
  have hlength := h.length
  rw [List.length_drop, List.length_take]
  omega

/-- Copying bytes that fit changes no byte that has been written. -/
theorem WellFormed.fill_ok (h : self.WellFormed) {bs : List UInt8}
    (hfits : bs.length ≤ self.write_available.toNat) :
    ∃ data, self.fill bs = some { self with data := data } ∧
      data.length = self.data.length ∧
      data.take (self.write_pos.toNat + bs.length)
        = self.data.take self.write_pos.toNat ++ bs := by
  obtain ⟨hslice, hroom⟩ := h.write_slice_eq
  have hspace : bs.length ≤ (self.data.drop self.write_pos.toNat).length := by omega
  have hbefore : (self.data.take self.write_pos.toNat).length = self.write_pos.toNat := by
    have hwrite : self.write_pos.toNat ≤ self.capacity.toNat :=
      UInt64.le_iff_toNat_le.mp h.in_bounds
    rw [List.length_take, h.length]
    omega
  -- what was written, the new bytes, and the rest of the room
  refine ⟨self.data.take self.write_pos.toNat
    ++ (bs ++ (self.data.drop self.write_pos.toNat).drop bs.length), ?_, ?_, ?_⟩
  · rw [fill, hslice]
    exact if_pos hspace
  · rw [List.length_append, List.length_append, List.length_drop, Nat.add_sub_cancel' hspace,
      ← List.length_append, List.take_append_drop]
  · rw [← List.append_assoc]
    exact List.take_left' (by rw [List.length_append, hbefore])

/-- A cursor that is moved within what is available does not wrap around, and passes its
check. -/
theorem advance_within {pos count limit : UInt64} (hpos : pos ≤ limit)
    (hcount : count.toNat ≤ limit.toNat - pos.toNat) :
    ¬ pos + count > limit ∧ (pos + count).toNat = pos.toNat + count.toNat := by
  have hle : pos.toNat ≤ limit.toNat := UInt64.le_iff_toNat_le.mp hpos
  have hlimit : limit.toNat < 2 ^ 64 := limit.toNat_lt
  have hsum : (pos + count).toNat = pos.toNat + count.toNat := by
    rw [UInt64.toNat_add]
    omega
  refine ⟨?_, hsum⟩
  rw [gt_iff_lt, UInt64.lt_iff_toNat_lt, hsum]
  omega

/-! ## Refinement

The buffer stands for a queue: the unread bytes are its elements, and the bytes behind the
write cursor its room. One lemma for each call that the client may make, and one for each that
it may not, since the queue refuses those too. -/

/-- The buffer is the queue: the unread bytes are its elements, and what can be written is
its room. -/
structure Refines (capacity : ℕ) (buf : ZeroCopyBuffer) (fifo : LinearFifo.Fifo UInt8) :
    Prop where
  well_formed : buf.WellFormed
  capacity : buf.capacity.toNat = capacity
  queue : buf.read_slice = some fifo.queue
  room : buf.write_available.toNat = fifo.room

/-- The calls of the client as calls on the queue. -/
def fifo_call : FifoCall → LinearFifo.Call UInt8
  | .produce bs => .put bs
  | .consume n => .take n.toNat
  | .reset => .clear

/-- The bytes of a reply. -/
def fifo_bytes (reply : FifoReply) : Option (List UInt8) := reply.map Prod.fst

/-- A buffer that is handed out is an empty queue. -/
theorem refines_with_capacity (capacity : UInt64) :
    Refines capacity.toNat (with_capacity capacity) ⟨capacity.toNat, []⟩ := by
  have hwell := with_capacity_wellFormed capacity
  refine ⟨hwell, rfl, ?_, ?_⟩
  · rw [hwell.read_slice_eq]
    rfl
  · show (capacity - 0).toNat = capacity.toNat
    rw [UInt64.sub_zero]

namespace Refines

variable {capacity : ℕ} {buf : ZeroCopyBuffer} {fifo : LinearFifo.Fifo UInt8}

theorem queue_eq (h : Refines capacity buf fifo) :
    fifo.queue = (buf.data.take buf.write_pos.toNat).drop buf.read_pos.toNat := by
  have hqueue := h.queue
  rw [h.well_formed.read_slice_eq] at hqueue
  exact (Option.some.inj hqueue).symm

/-- Bytes that fit are put in. -/
theorem produce_ok (h : Refines capacity buf fifo) {bs : List UInt8}
    (hfits : bs.length ≤ fifo.room) :
    ∃ next, buf.produce bs = some (next, .ok ()) ∧
      Refines capacity next ⟨fifo.room - bs.length, fifo.queue ++ bs⟩ := by
  have hwell := h.well_formed
  have horder : buf.read_pos.toNat ≤ buf.write_pos.toNat :=
    UInt64.le_iff_toNat_le.mp hwell.in_order
  have hbounds : buf.write_pos.toNat ≤ buf.capacity.toNat :=
    UInt64.le_iff_toNat_le.mp hwell.in_bounds
  have hcapacity : buf.capacity.toNat < 2 ^ 64 := buf.capacity.toNat_lt
  have hroom : buf.capacity.toNat - buf.write_pos.toNat = fifo.room := by
    rw [← h.room, write_available, UInt64.toNat_sub_of_le _ _ hwell.in_bounds]
  -- what fits into the room is short of `2 ^ 64`, so neither the count nor the sum wraps
  have hsmall : bs.length < 2 ^ 64 := by omega
  have hcount : (UInt64.ofNat bs.length).toNat = bs.length := UInt64.toNat_ofNat_of_lt' hsmall
  have havailable : (UInt64.ofNat bs.length).toNat
      ≤ buf.capacity.toNat - buf.write_pos.toNat := by omega
  obtain ⟨hpasses, hsum⟩ := advance_within hwell.in_bounds havailable
  rw [hcount] at hsum
  obtain ⟨data, hfill, hlength, hdata⟩ := hwell.fill_ok (h.room ▸ hfits)
  let next : ZeroCopyBuffer :=
    { buf with data := data, write_pos := buf.write_pos + UInt64.ofNat bs.length }
  have hproduce : buf.produce bs = some (next, .ok ()) := by
    rw [produce, hfill, Option.map_some, advance_write, if_neg hpasses]
  have hnext : next.WellFormed := by
    refine ⟨?_, UInt64.not_lt.mp hpasses, hlength.trans hwell.length⟩
    rw [UInt64.le_iff_toNat_le, hsum]
    show buf.read_pos.toNat ≤ buf.write_pos.toNat + bs.length
    omega
  refine ⟨next, hproduce, hnext, h.capacity, ?_, ?_⟩
  · -- the copy is behind all unread bytes, and they stay where they were
    have hread : buf.read_pos.toNat ≤ (buf.data.take buf.write_pos.toNat).length := by
      rw [List.length_take, hwell.length]
      omega
    rw [hnext.read_slice_eq, hsum, hdata, h.queue_eq, List.drop_append_of_le_length hread]
  · rw [write_available, UInt64.toNat_sub_of_le _ _ hnext.in_bounds, hsum]
    show buf.capacity.toNat - (buf.write_pos.toNat + bs.length) = fifo.room - bs.length
    omega

/-- Bytes that are there are taken out. -/
theorem consume_ok (h : Refines capacity buf fifo) {n : UInt64}
    (hthere : n.toNat ≤ fifo.queue.length) :
    ∃ next, buf.consume n = some (fifo.queue.take n.toNat, next, .ok ()) ∧
      Refines capacity next ⟨fifo.room, fifo.queue.drop n.toNat⟩ := by
  have hunread := h.well_formed.unread_length
  rw [← h.queue_eq] at hunread
  have havailable : n.toNat ≤ buf.write_pos.toNat - buf.read_pos.toNat := by omega
  obtain ⟨hpasses, hsum⟩ := advance_within h.well_formed.in_order havailable
  -- reading moves one cursor; the elements that are left are those behind it
  let next : ZeroCopyBuffer := { buf with read_pos := buf.read_pos + n }
  have hconsume : buf.consume n = some (fifo.queue.take n.toNat, next, .ok ()) := by
    rw [consume, h.queue]
    dsimp only
    rw [if_pos hthere, advance_read, if_neg hpasses]
  have hwell : next.WellFormed :=
    ⟨UInt64.not_lt.mp hpasses, h.well_formed.in_bounds, h.well_formed.length⟩
  refine ⟨next, hconsume, hwell, h.capacity, ?_, h.room⟩
  rw [hwell.read_slice_eq, h.queue_eq, hsum, List.drop_drop]

/-- Bytes that do not fit are refused, as the client must not write them. -/
theorem produce_refused (h : Refines capacity buf fifo) {bs : List UInt8}
    (hlarge : ¬ bs.length ≤ fifo.room) :
    buf.produce bs = none ∧ ¬ buf.Allowed (.produce bs) := by
  obtain ⟨hslice, hroom⟩ := h.well_formed.write_slice_eq
  have hspace : ¬ bs.length ≤ (buf.data.drop buf.write_pos.toNat).length := by
    rw [hroom, h.room]
    exact hlarge
  constructor
  · rw [produce, fill, hslice]
    exact congrArg _ (if_neg hspace)
  · rintro ⟨room, hroom', hfits⟩
    rw [hslice] at hroom'
    exact hspace (Option.some.inj hroom' ▸ hfits)

/-- Bytes that are not there are not handed out, as the client must not read them. -/
theorem consume_refused (h : Refines capacity buf fifo) {n : UInt64}
    (hmissing : ¬ n.toNat ≤ fifo.queue.length) :
    buf.consume n = none ∧ ¬ buf.Allowed (.consume n) := by
  constructor
  · rw [consume, h.queue]
    exact if_neg hmissing
  · rintro ⟨unread, hunread, hthere⟩
    rw [h.queue] at hunread
    exact hmissing (Option.some.inj hunread ▸ hthere)

theorem reset (h : Refines capacity buf fifo) : Refines capacity buf.reset ⟨capacity, []⟩ := by
  have hwell : buf.reset.WellFormed :=
    ⟨UInt64.le_refl _, UInt64.zero_le, h.well_formed.length⟩
  refine ⟨hwell, h.capacity, ?_, ?_⟩
  · rw [hwell.read_slice_eq]
    rfl
  · show (buf.capacity - 0).toNat = capacity
    rw [UInt64.sub_zero, h.capacity]

end Refines

/-- A call the client may make goes through, and does to the buffer what it does to the
queue. -/
theorem fifo_step_refines {capacity : ℕ} {buf : ZeroCopyBuffer} {fifo : LinearFifo.Fifo UInt8}
    (h : Refines capacity buf fifo) (call : FifoCall) :
    Refines capacity (buf.fifo_step call).1 (LinearFifo.step capacity fifo (fifo_call call)).1 ∧
      fifo_bytes (buf.fifo_step call).2
        = (LinearFifo.step capacity fifo (fifo_call call)).2 ∧
      (buf.Allowed call → ∃ bytes, (buf.fifo_step call).2 = some (bytes, .ok ())) := by
  cases call with
  | produce bs =>
      rw [fifo_step, fifo_call, LinearFifo.step]
      by_cases hfits : bs.length ≤ fifo.room
      · obtain ⟨next, hproduce, hnext⟩ := h.produce_ok hfits
        rw [hproduce, if_pos hfits]
        exact ⟨hnext, rfl, fun _ => ⟨[], rfl⟩⟩
      · obtain ⟨hproduce, hforbidden⟩ := h.produce_refused hfits
        rw [hproduce, if_neg hfits]
        exact ⟨h, rfl, fun hallowed => absurd hallowed hforbidden⟩
  | consume n =>
      rw [fifo_step, fifo_call, LinearFifo.step]
      by_cases hthere : n.toNat ≤ fifo.queue.length
      · obtain ⟨next, hconsume, hnext⟩ := h.consume_ok hthere
        rw [hconsume, if_pos hthere]
        exact ⟨hnext, rfl, fun _ => ⟨_, rfl⟩⟩
      · obtain ⟨hconsume, hforbidden⟩ := h.consume_refused hthere
        rw [hconsume, if_neg hthere]
        exact ⟨h, rfl, fun hallowed => absurd hallowed hforbidden⟩
  | reset => exact ⟨h.reset, rfl, fun _ => ⟨[], rfl⟩⟩

/-! ## Runs

What was produced and consumed is read off the calls as the queue has them. The simulation
gives the same history on both sides, so that the conservation of the queue is that of the
buffer. -/

abbrev FifoEntry := Entry ZeroCopyBuffer FifoCall FifoReply

/-- The bytes produced since the last `reset`. -/
def produced (log : List FifoEntry) : List UInt8 :=
  LinearFifo.put_in ((exchanges log).map (Prod.map fifo_call fifo_bytes))

/-- The bytes consumed since the last `reset`. -/
def consumed (log : List FifoEntry) : List UInt8 :=
  LinearFifo.taken_out ((exchanges log).map (Prod.map fifo_call fifo_bytes))

/-- **The buffer is a bounded queue.** Whatever is produced, consumed and reset, in any
order: every advance succeeds, and what was consumed since the last `reset`, followed by
what can be read, is what was produced since then and takes up the room it needs. -/
theorem zero_copy_fifo (capacity : UInt64) (calls : List FifoCall) :
    let run := exec fifo_step (with_capacity capacity) calls
    (∀ e ∈ run.2, e.before.Allowed e.input → ∃ bytes, e.output = some (bytes, .ok ())) ∧
      (∃ unread, run.1.read_slice = some unread ∧
        consumed run.2 ++ unread = produced run.2) ∧
      run.1.write_available.toNat + (produced run.2).length = capacity.toNat := by
  intro run
  have hstart := refines_with_capacity capacity
  have hsimulates : ∀ buf fifo call, Refines capacity.toNat buf fifo →
      Refines capacity.toNat (buf.fifo_step call).1
          (LinearFifo.step capacity.toNat fifo (fifo_call call)).1 ∧
        fifo_bytes (buf.fifo_step call).2
          = (LinearFifo.step capacity.toNat fifo (fifo_call call)).2 := by
    intro buf fifo call h
    obtain ⟨hnext, hbytes, -⟩ := fifo_step_refines h call
    exact ⟨hnext, hbytes⟩
  obtain ⟨hrefines, hseen⟩ := exec_simulation fifo_step (LinearFifo.step capacity.toNat)
    hsimulates hstart calls
  -- the queue has lost nothing, and the buffer has made the same replies
  have hconserved := LinearFifo.conservation capacity.toNat (calls.map fifo_call)
  rw [← hseen] at hconserved
  refine ⟨?_, ⟨_, hrefines.queue, hconserved.elements⟩, ?_⟩
  · -- every step starts from a buffer that is some queue
    refine Guarded.forall (exec_guarded fifo_step
      (I := fun buf _ => ∃ fifo, Refines capacity.toNat buf fifo) ⟨_, hstart⟩ ?_ ?_ calls)
    · rintro buf _ call ⟨fifo, h⟩
      exact ⟨_, (fifo_step_refines h call).1⟩
    · rintro buf _ call ⟨fifo, h⟩
      exact (fifo_step_refines h call).2.2
  · rw [hrefines.room]
    exact hconserved.room

end ZeroCopyBuffer

end SovereignEdgeTee
