/-
Programs that look at a packet the way a filter in the kernel does.

Such a program is given two pointers, `data` and `data_end`. It may load a byte only after it
has compared `data_end` with an end behind that byte, and a record it has reserved in a ring
buffer it has to submit. Before the kernel takes a program it walks all its branches and
rejects the ones that do not keep to this: `Verified` is what it looks for.

A run makes no allowance. A load at or behind `data_end` is a fault, and so is a record that
is submitted without a reservation or kept to the end. `offsets_lt` says that a verified
program loads from inside the packet, and `run_congr` that what it does depends on the bytes
in front of the farthest end it compares with, and on nothing behind them.
-/
import Mathlib.Data.Nat.Notation

set_option autoImplicit false

/-- A program over bytes `β` that submits records `ρ` and returns an `α`. -/
inductive PacketProgram (β ρ α : Type) where
  | ret (a : α)
  /-- `if (data + n > data_end)`, with the branch for that first. -/
  | check (n : ℕ) (outside inside : PacketProgram β ρ α)
  | load (offset : ℕ) (next : β → PacketProgram β ρ α)
  /-- A reservation, with the branch for a full buffer first. -/
  | reserve (full taken : PacketProgram β ρ α)
  | submit (record : ρ) (next : PacketProgram β ρ α)

namespace PacketProgram

variable {β ρ α : Type}

/-! ## Runs

`run` is the meaning of a program on one packet: the bytes, how many there are, and whether
the ring buffer has room. A fault is the value `none`, so that "never faults" is a statement
about values and needs no assumption on what the kernel would do instead. -/

/-- The run over the `len` bytes of `mem`. `room` says whether the ring buffer has room, `held`
whether a reservation is open. Records are submitted in order. -/
def run (mem : ℕ → β) (len : ℕ) (room : Bool) :
    PacketProgram β ρ α → Bool → Option (α × List ρ)
  | .ret a, held => if held then none else some (a, [])
  | .check n outside inside, held =>
    if len < n then outside.run mem len room held else inside.run mem len room held
  | .load offset next, held =>
    if offset < len then (next (mem offset)).run mem len room held else none
  | .reserve full taken, held =>
    if held then none
    else if room then taken.run mem len room true else full.run mem len room false
  | .submit record next, held =>
    if held then (next.run mem len room false).map fun r => (r.1, record :: r.2) else none

/-- The offsets a run loads from, in order. -/
def offsets (mem : ℕ → β) (len : ℕ) (room : Bool) : PacketProgram β ρ α → List ℕ
  | .ret _ => []
  | .check n outside inside =>
    if len < n then outside.offsets mem len room else inside.offsets mem len room
  | .load offset next => offset :: (next (mem offset)).offsets mem len room
  | .reserve full taken =>
    if room then taken.offsets mem len room else full.offsets mem len room
  | .submit _ next => next.offsets mem len room

/-! ## The verifier

`Verified` walks the program with what is known about the packet so far, as the kernel's
verifier does. `offsets_lt` is the soundness of the bounds: on every path the loads taken lie
in front of the end. `run_congr` follows the same induction for two packets that agree there. -/

/-- Every branch keeps to the rules, when `known` bytes are known to be there and a reservation
is open or not. No branch compares `data_end` with an end behind `limit`. -/
def Verified (limit : ℕ) : PacketProgram β ρ α → ℕ → Bool → Prop
  | .ret _, _, held => held = false
  | .check n outside inside, known, held =>
    n ≤ limit ∧ outside.Verified limit known held ∧ inside.Verified limit (max known n) held
  | .load offset next, known, held =>
    offset < known ∧ ∀ byte, (next byte).Verified limit known held
  | .reserve full taken, known, held =>
    held = false ∧ full.Verified limit known false ∧ taken.Verified limit known true
  | .submit _ next, known, held => held = true ∧ next.Verified limit known false

/-- A branch on what was loaded is walked both ways. -/
theorem verified_ite {limit known : ℕ} {held : Bool} {c : Prop} [Decidable c]
    {p q : PacketProgram β ρ α} (hp : p.Verified limit known held)
    (hq : q.Verified limit known held) : (if c then p else q).Verified limit known held := by
  split
  · exact hp
  · exact hq

section Soundness

variable {limit len : ℕ} {mem : ℕ → β} {room : Bool}

/-- It loads from the packet, in front of the limit. -/
theorem offsets_lt {p : PacketProgram β ρ α} {known : ℕ} {held : Bool}
    (h : p.Verified limit known held) (hlen : known ≤ len) (hlimit : known ≤ limit) :
    ∀ offset ∈ p.offsets mem len room, offset < min len limit := by
  induction p generalizing known held with
  | ret a => exact fun offset hmem => absurd hmem List.not_mem_nil
  | check n outside inside ihoutside ihinside =>
      rw [offsets]
      by_cases hn : len < n
      · rw [if_pos hn]
        exact ihoutside h.2.1 hlen hlimit
      · rw [if_neg hn]
        exact ihinside h.2.2 (Nat.max_le.mpr ⟨hlen, Nat.le_of_not_lt hn⟩)
          (Nat.max_le.mpr ⟨hlimit, h.1⟩)
  | load offset next ih =>
      rw [offsets]
      -- the load is in front of what is known, and that is in front of the end and of the
      -- limit
      refine List.forall_mem_cons.mpr ⟨?_, ih _ (h.2 _) hlen hlimit⟩
      exact Nat.lt_of_lt_of_le h.1 (Nat.le_min.mpr ⟨hlen, hlimit⟩)
  | reserve full taken ihfull ihtaken =>
      rw [offsets]
      by_cases hroom : room = true
      · rw [if_pos hroom]
        exact ihtaken h.2.2 hlen hlimit
      · rw [if_neg hroom]
        exact ihfull h.2.1 hlen hlimit
  | submit record next ih => exact ih h.2 hlen hlimit

/-- Two packets that agree in front of the limit, and end at the same place there or both
behind it, are treated alike. -/
theorem run_congr {p : PacketProgram β ρ α} {known : ℕ} {held : Bool}
    (h : p.Verified limit known held) (hknown : known ≤ len) (hlimit : known ≤ limit)
    {mem' : ℕ → β} {len' : ℕ} (hlen : min len limit = min len' limit)
    (hmem : ∀ i < min len limit, mem i = mem' i) :
    p.run mem len room held = p.run mem' len' room held := by
  induction p generalizing known held with
  | ret a => rfl
  | check n outside inside ihoutside ihinside =>
      have hn := h.1
      -- the comparison is with an end in front of the limit, so both packets come out alike
      have hsame : len < n ↔ len' < n := by omega
      rw [run, run]
      by_cases hout : len < n
      · rw [if_pos hout, if_pos (hsame.mp hout)]
        exact ihoutside h.2.1 hknown hlimit
      · rw [if_neg hout, if_neg fun h' => hout (hsame.mpr h')]
        exact ihinside h.2.2 (Nat.max_le.mpr ⟨hknown, Nat.le_of_not_lt hout⟩)
          (Nat.max_le.mpr ⟨hlimit, hn⟩)
  | load offset next ih =>
      have hoffset := h.1
      rw [run, run, if_pos (by omega), if_pos (by omega), hmem offset (by omega)]
      exact ih _ (h.2 _) hknown hlimit
  | reserve full taken ihfull ihtaken =>
      obtain ⟨hheld, hfull, htaken⟩ := h
      rw [run, run, ihfull hfull hknown hlimit, ihtaken htaken hknown hlimit]
  | submit record next ih =>
      obtain ⟨hheld, hnext⟩ := h
      rw [run, run, ih hnext hknown hlimit]

end Soundness

end PacketProgram
