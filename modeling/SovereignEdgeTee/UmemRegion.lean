/-
`crates/xdp-ingest/src/main.rs`: the region packets are received into, a vector cut into
frames of one size.

The two accessors put the end of a frame in the vector in two ways. `get_frame` takes the
shorter of a frame and what is left of the vector, `get_frame_mut` the nearer of two ends.
The start is a product that the release profile lets wrap around, so an index far beyond
the last frame may start anywhere in the vector. `get_frame_eq` and `get_frame_mut_eq` say
what the accessors do at every start.

A `usize` is a `UInt64`. A frame is known by its range in the vector.
-/
import Mathlib.Algebra.Group.Nat.Defs
import Mathlib.Data.Set.Disjoint
import Mathlib.Order.CompletePartialOrder
import Mathlib.Order.Interval.Set.Disjoint

set_option autoImplicit false

namespace SovereignEdgeTee

/-- A range of the vector, from `start` up to `stop`. -/
structure ByteRange where
  start : UInt64
  stop : UInt64
deriving DecidableEq

/-- `usize::min`. -/
def usize_min (a b : UInt64) : UInt64 := if a ≤ b then a else b

/-- The positions in a range. -/
def ByteRange.positions (r : ByteRange) : Set ℕ := Set.Ico r.start.toNat r.stop.toNat

/-- A region as `new` makes it: its vector is as long as its frames together, and that many
bytes can be counted. -/
structure UmemRegion where
  frame_size : UInt64
  frame_count : UInt64
  buffer : List UInt8
  fits : frame_size.toNat * frame_count.toNat < 2 ^ 64
  length_buffer : buffer.length = frame_size.toNat * frame_count.toNat

namespace UmemRegion

/-- An allocation that fails ends the process, so there is a region only where it succeeds. -/
def new (frame_size frame_count : UInt64)
    (fits : frame_size.toNat * frame_count.toNat < 2 ^ 64) : UmemRegion where
  frame_size := frame_size
  frame_count := frame_count
  buffer := List.replicate (frame_size.toNat * frame_count.toNat) 0
  fits := fits
  length_buffer := List.length_replicate

/-- `self.buffer.len()`. -/
def len (self : UmemRegion) : UInt64 := UInt64.ofNat self.buffer.length

/-- `self.buffer[start..stop]`, which panics on a range that is out of order or beyond the
end of the vector. -/
def slice (self : UmemRegion) (start stop : UInt64) : Option ByteRange :=
  if start ≤ stop ∧ stop ≤ self.len then some ⟨start, stop⟩ else none

def get_frame (self : UmemRegion) (frame_idx : UInt64) : Option ByteRange :=
  let start := frame_idx * self.frame_size
  self.slice start (start + usize_min self.frame_size (self.len - start))

def get_frame_mut (self : UmemRegion) (frame_idx : UInt64) : Option ByteRange :=
  let start := frame_idx * self.frame_size
  let stop := usize_min (start + self.frame_size) self.len
  self.slice start stop

/-! ## What the accessors return

Both accessors compute the same start, and from the start on they differ in the order of an
addition and a `min`. So the lemmas say, for every start, that both return the range
`frame_at` of it, and where each of them panics. -/

theorem len_toNat (self : UmemRegion) :
    self.len.toNat = self.frame_size.toNat * self.frame_count.toNat := by
  rw [len, self.length_buffer, UInt64.toNat_ofNat_of_lt' self.fits]

theorem toNat_usize_min (a b : UInt64) : (usize_min a b).toNat = min a.toNat b.toNat := by
  unfold usize_min
  by_cases h : a ≤ b
  · rw [if_pos h, Nat.min_eq_left (UInt64.le_iff_toNat_le.mp h)]
  · have hba : ¬ a.toNat ≤ b.toNat := fun hle => h (UInt64.le_iff_toNat_le.mpr hle)
    rw [if_neg h, Nat.min_eq_right (Nat.le_of_not_le hba)]

variable (self : UmemRegion) (frame_idx : UInt64)

/-- The start of a frame, as both accessors compute it. -/
def start_of : UInt64 := frame_idx * self.frame_size

/-- From `start` on, a frame or what is left of the vector. -/
def frame_at (start : UInt64) : ByteRange :=
  ⟨start, UInt64.ofNat (min (start.toNat + self.frame_size.toNat) self.len.toNat)⟩

theorem frame_at_stop (start : UInt64) :
    (self.frame_at start).stop.toNat =
      min (start.toNat + self.frame_size.toNat) self.len.toNat := by
  have hlen := self.len.toNat_lt
  rw [frame_at, UInt64.toNat_ofNat', Nat.mod_eq_of_lt (by omega)]

/-- `get_frame` panics beyond the end of the vector only. -/
theorem get_frame_eq :
    self.get_frame frame_idx =
      if self.start_of frame_idx ≤ self.len then some (self.frame_at (self.start_of frame_idx))
      else none := by
  unfold get_frame slice
  dsimp only
  rw [← start_of]
  generalize self.start_of frame_idx = start
  have hlen := self.len.toNat_lt
  have hsize := self.frame_size.toNat_lt
  by_cases hin : start ≤ self.len
  · have hin' : start.toNat ≤ self.len.toNat := UInt64.le_iff_toNat_le.mp hin
    -- within the vector nothing wraps around: what is left is a difference, and adding the
    -- shorter of two lengths stays below the end
    have hstop : start + usize_min self.frame_size (self.len - start)
        = (self.frame_at start).stop := by
      rw [← UInt64.toNat_inj, frame_at_stop, UInt64.toNat_add, toNat_usize_min,
        UInt64.toNat_sub_of_le _ _ hin]
      omega
    rw [if_pos hin, hstop, if_pos]
    · rfl
    · rw [UInt64.le_iff_toNat_le, UInt64.le_iff_toNat_le, frame_at_stop]
      omega
  · -- the difference wraps around, and the end is beyond the vector or before the start
    have hout : ¬ start.toNat ≤ self.len.toNat := fun h => hin (UInt64.le_iff_toNat_le.mpr h)
    have hlt := start.toNat_lt
    rw [if_neg hin, if_neg]
    rw [UInt64.le_iff_toNat_le, UInt64.le_iff_toNat_le, UInt64.toNat_add, toNat_usize_min,
      UInt64.toNat_sub]
    omega

/-- `get_frame_mut` returns the same range, and panics also where the end of a whole frame
cannot be counted. -/
theorem get_frame_mut_eq :
    self.get_frame_mut frame_idx =
      if self.start_of frame_idx ≤ self.len ∧
          (self.start_of frame_idx).toNat + self.frame_size.toNat < 2 ^ 64 then
        some (self.frame_at (self.start_of frame_idx))
      else none := by
  unfold get_frame_mut slice
  dsimp only
  rw [← start_of]
  generalize self.start_of frame_idx = start
  have hlen := self.len.toNat_lt
  have hsize := self.frame_size.toNat_lt
  have hlt := start.toNat_lt
  by_cases hin : start ≤ self.len ∧ start.toNat + self.frame_size.toNat < 2 ^ 64
  · have hin' : start.toNat ≤ self.len.toNat := UInt64.le_iff_toNat_le.mp hin.1
    -- the sum may be beyond the vector, but as a number it can be counted, so the `min` is
    -- right
    have hstop : usize_min (start + self.frame_size) self.len = (self.frame_at start).stop := by
      rw [← UInt64.toNat_inj, frame_at_stop, toNat_usize_min, UInt64.toNat_add,
        Nat.mod_eq_of_lt hin.2]
    rw [if_pos hin, hstop, if_pos]
    · rfl
    · rw [UInt64.le_iff_toNat_le, UInt64.le_iff_toNat_le, frame_at_stop]
      omega
  · -- either the start is behind the vector, or the sum wraps around and is before the start
    rw [if_neg hin, if_neg]
    rw [UInt64.le_iff_toNat_le] at hin
    rw [UInt64.le_iff_toNat_le, UInt64.le_iff_toNat_le, toNat_usize_min, UInt64.toNat_add]
    omega

/-! ## Which frames are as they should be

An index from `frame_count` on should yield nothing. It does if its start, as computed, is
behind the vector, since the accessors then panic, or is its end, since the range is then
empty. Those are the indices that are `Safe`, and `frameOk_iff` says that there are no others. -/

/-- One of the accessors returns this range. -/
def Yields (r : ByteRange) : Prop :=
  self.get_frame frame_idx = some r ∨ self.get_frame_mut frame_idx = some r

/-- The accessors agree on a frame; a frame of the region is where it should be, and beyond
the last one there is nothing. -/
structure FrameOk (umem : UmemRegion) (idx : UInt64) : Prop where
  agree : umem.get_frame idx = umem.get_frame_mut idx
  within : idx < umem.frame_count →
    ∃ r, umem.get_frame idx = some r ∧
      r.start.toNat = idx.toNat * umem.frame_size.toNat ∧
      r.stop.toNat = (idx.toNat + 1) * umem.frame_size.toNat
  beyond : ¬ idx < umem.frame_count → ∀ r, umem.Yields idx r → r.positions = ∅

/-- The frame is one of the region, or its start is computed to be behind the vector, or at
its end with room to count one more frame. -/
def Safe : Prop :=
  frame_idx < self.frame_count ∨ self.len < self.start_of frame_idx ∨
    (self.start_of frame_idx = self.len ∧ self.len.toNat + self.frame_size.toNat < 2 ^ 64)

variable {self frame_idx}

theorem positions_eq_empty_iff {r : ByteRange} :
    r.positions = ∅ ↔ r.stop.toNat ≤ r.start.toNat := by
  rw [ByteRange.positions, Set.Ico_eq_empty_iff, not_lt]

/-- The frames of the region do not wrap around, and lie in the vector. -/
theorem start_of_within (h : frame_idx < self.frame_count) :
    (self.start_of frame_idx).toNat = frame_idx.toNat * self.frame_size.toNat ∧
      (self.start_of frame_idx).toNat + self.frame_size.toNat ≤ self.len.toNat := by
  have hlt : frame_idx.toNat + 1 ≤ self.frame_count.toNat := UInt64.lt_iff_toNat_lt.mp h
  -- the frame ends where the next one starts, which for the last is the end of the vector
  have hmul := Nat.mul_le_mul_right self.frame_size.toNat hlt
  have hfits := self.fits
  rw [Nat.add_mul, Nat.one_mul, Nat.mul_comm self.frame_count.toNat] at hmul
  rw [len_toNat, start_of, UInt64.toNat_mul, Nat.mod_eq_of_lt (by omega)]
  exact ⟨rfl, hmul⟩

/-- What either accessor yields is the range `get_frame` has for it. -/
theorem Yields.eq {r : ByteRange} (h : self.Yields frame_idx r) :
    self.start_of frame_idx ≤ self.len ∧ r = self.frame_at (self.start_of frame_idx) := by
  rcases h with h | h
  · rw [get_frame_eq] at h
    split at h
    · rename_i hin
      exact ⟨hin, (Option.some.inj h).symm⟩
    · cases h
  · rw [get_frame_mut_eq] at h
    split at h
    · rename_i hin
      exact ⟨hin.1, (Option.some.inj h).symm⟩
    · cases h

theorem agree_iff :
    self.get_frame frame_idx = self.get_frame_mut frame_idx ↔
      (self.start_of frame_idx ≤ self.len →
        (self.start_of frame_idx).toNat + self.frame_size.toNat < 2 ^ 64) := by
  rw [get_frame_eq, get_frame_mut_eq]
  by_cases hin : self.start_of frame_idx ≤ self.len
  · rw [if_pos hin]
    by_cases hcount : (self.start_of frame_idx).toNat + self.frame_size.toNat < 2 ^ 64
    · rw [if_pos ⟨hin, hcount⟩]
      exact iff_of_true rfl fun _ => hcount
    · rw [if_neg fun h => hcount h.2]
      refine iff_of_false (by rintro ⟨⟩) fun h => hcount (h hin)
  · rw [if_neg hin, if_neg fun h => hin h.1]
    exact iff_of_true rfl fun h => absurd h hin

/-- A range is empty only at the end of the vector, or if frames are. -/
theorem frame_at_empty_iff {start : UInt64} (hin : start ≤ self.len) :
    (self.frame_at start).positions = ∅ ↔ start = self.len := by
  have hin' : start.toNat ≤ self.len.toNat := UInt64.le_iff_toNat_le.mp hin
  have hstart : (self.frame_at start).start = start := rfl
  have hlen := self.len_toNat
  rw [positions_eq_empty_iff, frame_at_stop, hstart, ← UInt64.toNat_inj]
  constructor
  · intro h
    -- with frames of no size the vector is empty, and its start is its end
    rcases Nat.eq_zero_or_pos self.frame_size.toNat with hzero | hpos
    · rw [hzero, Nat.zero_mul] at hlen
      omega
    · omega
  · intro h
    omega

/-- **When one frame is as it should be.** -/
theorem frameOk_iff : self.FrameOk frame_idx ↔ self.Safe frame_idx := by
  by_cases hwithin : frame_idx < self.frame_count
  · -- a frame of the region always is
    obtain ⟨hstart, hstop⟩ := start_of_within hwithin
    have hlen := self.len.toNat_lt
    have hin : self.start_of frame_idx ≤ self.len := UInt64.le_iff_toNat_le.mpr (by omega)
    refine iff_of_true ⟨agree_iff.mpr fun _ => by omega, ?_, fun h => absurd hwithin h⟩
      (Or.inl hwithin)
    intro _
    refine ⟨self.frame_at (self.start_of frame_idx), ?_, hstart, ?_⟩
    · rw [get_frame_eq, if_pos hin]
    · rw [frame_at_stop, Nat.min_eq_left hstop, hstart, Nat.add_mul, Nat.one_mul]
  · rw [Safe, or_iff_right hwithin]
    constructor
    · intro h
      by_cases hin : self.start_of frame_idx ≤ self.len
      · -- `get_frame` does return a range here, so it has to be an empty one
        have hget := (self.get_frame_eq frame_idx).trans (if_pos hin)
        have hempty := h.beyond hwithin _ (Or.inl hget)
        have hend := (frame_at_empty_iff hin).mp hempty
        have hcount := agree_iff.mp h.agree hin
        rw [hend] at hcount
        exact Or.inr ⟨hend, hcount⟩
      · exact Or.inl (UInt64.not_le.mp hin)
    · intro h
      refine ⟨agree_iff.mpr ?_, fun hlt => absurd hlt hwithin, ?_⟩
      · intro hin
        rcases h with hbehind | ⟨hend, hcount⟩
        · exact absurd hin (UInt64.not_le.mpr hbehind)
        · rw [hend]
          exact hcount
      · rintro _ r hr
        obtain ⟨hin, rfl⟩ := hr.eq
        rcases h with hbehind | ⟨hend, -⟩
        · exact absurd hin (UInt64.not_le.mpr hbehind)
        · exact (frame_at_empty_iff hin).mpr hend

/-! ## Pairs of frames

Once every frame is at its place in the vector, two of them are apart because their places
are, and a frame beyond the last is empty. -/

theorem FrameOk.positions_eq {i : UInt64} (hi : self.FrameOk i) (hwithin : i < self.frame_count)
    {r : ByteRange} (hr : self.Yields i r) :
    r.positions =
      Set.Ico (i.toNat * self.frame_size.toNat) ((i.toNat + 1) * self.frame_size.toNat) := by
  obtain ⟨r', hget, hstart, hstop⟩ := hi.within hwithin
  have hsame : r = r' := by
    obtain ⟨-, hr⟩ := hr.eq
    obtain ⟨-, hr'⟩ := Yields.eq (Or.inl hget)
    rw [hr, hr']
  rw [hsame, ByteRange.positions, hstart, hstop]

/-- The frames of two indices of the region are one behind the other. -/
theorem Ico_disjoint_of_lt {i j size : ℕ} (h : i < j) :
    Disjoint (Set.Ico (i * size) ((i + 1) * size)) (Set.Ico (j * size) ((j + 1) * size)) := by
  have hmul : (i + 1) * size ≤ j * size := Nat.mul_le_mul_right size h
  rw [Set.Ico_disjoint_Ico]
  exact (min_le_left _ _).trans (hmul.trans (le_max_right _ _))

/-- Frames that are as they should be do not overlap. -/
theorem FrameOk.disjoint {i j : UInt64} (hi : self.FrameOk i) (hj : self.FrameOk j) (hne : i ≠ j)
    {r r' : ByteRange} (hr : self.Yields i r) (hr' : self.Yields j r') :
    Disjoint r.positions r'.positions := by
  by_cases hwi : i < self.frame_count
  · by_cases hwj : j < self.frame_count
    · rw [hi.positions_eq hwi hr, hj.positions_eq hwj hr']
      have hne' : i.toNat ≠ j.toNat := fun h => hne (UInt64.toNat_inj.mp h)
      rcases Nat.lt_or_gt_of_ne hne' with hlt | hlt
      · exact Ico_disjoint_of_lt hlt
      · exact (Ico_disjoint_of_lt hlt).symm
    · rw [hj.beyond hwj r' hr']
      exact disjoint_bot_right
  · rw [hi.beyond hwi r hr]
    exact disjoint_bot_left

/-- **UMEM frames.** Two frames are as they should be, and apart if they are two, exactly if
both indices are safe. -/
theorem frames_apart_iff (self : UmemRegion) (i j : UInt64) :
    (self.FrameOk i ∧ self.FrameOk j ∧
      (i ≠ j → ∀ r r', self.Yields i r → self.Yields j r' →
        Disjoint r.positions r'.positions)) ↔
    self.Safe i ∧ self.Safe j := by
  rw [← frameOk_iff, ← frameOk_iff]
  constructor
  · rintro ⟨hi, hj, -⟩
    exact ⟨hi, hj⟩
  · -- that the frames are apart is not asked for: it follows from where each of them is
    rintro ⟨hi, hj⟩
    exact ⟨hi, hj, fun hne _ _ hr hr' => hi.disjoint hj hne hr hr'⟩

/-- One frame of the size the daemon uses. -/
def one_frame : UmemRegion := new 2048 1 (by decide)

/-- `2 ^ 53`. -/
def far_index : UInt64 := 9007199254740992

/-- This index yields the first frame, which is all of the vector. -/
theorem wrapped_index_aliases :
    one_frame.get_frame far_index = one_frame.get_frame 0 ∧
      (∃ r, one_frame.get_frame far_index = some r ∧ r.positions = Set.Ico 0 2048) ∧
      ¬ one_frame.FrameOk far_index := by
  have hwrapped : one_frame.start_of far_index = 0 := by decide
  have hfirst : one_frame.start_of 0 = 0 := by decide
  have hlen : one_frame.len.toNat = 2048 := one_frame.len_toNat
  have hframe := one_frame.get_frame_eq far_index
  rw [hwrapped, if_pos UInt64.zero_le] at hframe
  have hpositions : (one_frame.frame_at 0).positions = Set.Ico 0 2048 := by
    rw [ByteRange.positions, frame_at_stop, hlen]
    rfl
  refine ⟨?_, ⟨_, hframe, hpositions⟩, ?_⟩
  · rw [hframe, get_frame_eq, hfirst, if_pos UInt64.zero_le]
  · intro h
    have hempty := h.beyond (by decide) _ (Or.inl hframe)
    rw [hpositions, Set.Ico_eq_empty_iff] at hempty
    exact hempty (by decide)

end UmemRegion

end SovereignEdgeTee
