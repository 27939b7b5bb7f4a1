/-
`crates/common/src/lib.rs`: the frames, the network quality, the agent modes and
the rolling context buffer. The clock of `crates/helpers/src/time.rs`, which the
programs read, is here too.

In this and the later modules a definition that has the name of a type or a function
of the source models it, and its docstring, if any, says what the source's text does not.

A frame's `metadata` is left out: it is carried along by every function of the
repository and read by none. Sizes and positions are natural numbers. The buffer
adds payload lengths only, and they are lengths of vectors in memory.
-/
import SovereignEdgeTee.Binary64
import Mathlib.Data.List.Basic

set_option autoImplicit false

namespace SovereignEdgeTee

structure TelemetryFrame where
  frame_id : UInt64
  source_ip : String
  dest_ip : Option String
  timestamp_ns : UInt64
  payload : List UInt8
deriving DecidableEq

/-- `EncryptedFrame`, the frame on the wire. -/
structure EncryptedFrame where
  frame_id : UInt64
  nonce : Vector UInt8 12
  ciphertext : List UInt8
  tag : Vector UInt8 16
deriving DecidableEq

/-- `NetworkQuality`, one measurement of the link. -/
structure NetworkQuality where
  latency_ms : F64
  packet_loss_pct : F64
  jitter_ms : F64
  bandwidth_mbps : F64
  measured_at : UInt64
deriving DecidableEq

inductive AgentMode where
  | Online
  | Degraded
  | Offline
  | Transitioning
deriving DecidableEq, Repr

namespace NetworkQuality

def is_degraded (self : NetworkQuality) : Bool :=
  self.latency_ms.bgt (F64.ofInt 200) || self.packet_loss_pct.bgt (F64.ofInt 5) ||
    self.jitter_ms.bgt (F64.ofInt 50)

def is_offline (self : NetworkQuality) : Bool :=
  self.latency_ms.bgt (F64.ofInt 5000) || self.packet_loss_pct.bgt (F64.ofInt 50)

end NetworkQuality

/-! ## The clock

Most functions of the model take a reading of the clock as an argument. The programs
make their readings with `now_ns`, which not every clock survives. -/

/-- `SystemTime`, as nanoseconds since 1970. A clock may be set before that. -/
structure SystemTime where
  nanos : ℤ
deriving DecidableEq

/-- The time is 1970 or later. -/
def SystemTime.SinceEpoch (self : SystemTime) : Prop := 0 ≤ self.nanos

instance SystemTime.SinceEpoch.decidable (self : SystemTime) : Decidable self.SinceEpoch :=
  inferInstanceAs (Decidable (0 ≤ self.nanos))

/-- `as_nanos() as u64`, which keeps the low 64 bits. -/
def SystemTime.as_nanos (self : SystemTime) : UInt64 := UInt64.ofNat self.nanos.toNat

/-- `now_ns` at this time. `none` is its panic, "Time went backwards". -/
def SystemTime.now_ns (self : SystemTime) : Option UInt64 :=
  if self.SinceEpoch then some self.as_nanos else none

/-! ## The context buffer

The buffer keeps the newest frames under two caps. `push` evicts from the front in two
loops, for the bytes and then for the number of frames, and appends the new frame in any
case. What the loops leave is a suffix of what was there, which is all that the proofs
about the buffer use of them. -/

/-- `ContextBuffer`: the newest frames, oldest first, under a cap on their number
and a cap on their bytes. -/
structure ContextBuffer where
  frames : List TelemetryFrame
  max_frames : ℕ
  max_bytes : ℕ
  total_bytes : ℕ

namespace ContextBuffer

def new (max_frames max_bytes : ℕ) : ContextBuffer := ⟨[], max_frames, max_bytes, 0⟩

/-- The first loop of `push`: evict from the front while the new frame of
`frame_size` bytes does not fit. Returns the frames left and their byte total. -/
def evict_bytes (max_bytes frame_size : ℕ) :
    List TelemetryFrame → ℕ → List TelemetryFrame × ℕ
  | [], total_bytes => ([], total_bytes)
  | oldest :: rest, total_bytes =>
    if total_bytes + frame_size > max_bytes then
      evict_bytes max_bytes frame_size rest (total_bytes - oldest.payload.length)
    else (oldest :: rest, total_bytes)

/-- The second loop of `push`: evict from the front while there are `max_frames`
frames or more. -/
def evict_frames (max_frames : ℕ) : List TelemetryFrame → ℕ → List TelemetryFrame × ℕ
  | [], total_bytes => ([], total_bytes)
  | oldest :: rest, total_bytes =>
    if (oldest :: rest).length ≥ max_frames then
      evict_frames max_frames rest (total_bytes - oldest.payload.length)
    else (oldest :: rest, total_bytes)

/-- What both loops of `push` leave of the frames in `self`, and their byte total. -/
def after_eviction (self : ContextBuffer) (frame_size : ℕ) : List TelemetryFrame × ℕ :=
  let left := evict_bytes self.max_bytes frame_size self.frames self.total_bytes
  evict_frames self.max_frames left.1 left.2

def push (self : ContextBuffer) (frame : TelemetryFrame) : ContextBuffer :=
  let left := self.after_eviction frame.payload.length
  { self with
    frames := left.1 ++ [frame]
    total_bytes := left.2 + frame.payload.length }

def get_recent (self : ContextBuffer) (count : ℕ) : List TelemetryFrame :=
  self.frames.reverse.take count

def len (self : ContextBuffer) : ℕ := self.frames.length

def clear (self : ContextBuffer) : ContextBuffer := { self with frames := [], total_bytes := 0 }

/-- The frames `push` removes to make room for `frame`. -/
def evicted (self : ContextBuffer) (frame : TelemetryFrame) : List TelemetryFrame :=
  self.frames.take (self.frames.length - (self.after_eviction frame.payload.length).1.length)

@[simp] theorem new_frames (max_frames max_bytes : ℕ) : (new max_frames max_bytes).frames = [] :=
  rfl

@[simp] theorem clear_frames (self : ContextBuffer) : self.clear.frames = [] := rfl

theorem evict_bytes_suffix (max_bytes frame_size : ℕ) (frames : List TelemetryFrame)
    (total_bytes : ℕ) :
    (evict_bytes max_bytes frame_size frames total_bytes).1 <:+ frames := by
  induction frames generalizing total_bytes with
  | nil => exact List.suffix_refl _
  | cons oldest rest ih =>
      unfold evict_bytes
      split
      · exact (ih _).trans (List.suffix_cons _ _)
      · exact List.suffix_refl _

theorem evict_frames_suffix (max_frames : ℕ) (frames : List TelemetryFrame) (total_bytes : ℕ) :
    (evict_frames max_frames frames total_bytes).1 <:+ frames := by
  induction frames generalizing total_bytes with
  | nil => exact List.suffix_refl _
  | cons oldest rest ih =>
      unfold evict_frames
      split
      · exact (ih _).trans (List.suffix_cons _ _)
      · exact List.suffix_refl _

theorem after_eviction_suffix (self : ContextBuffer) (frame_size : ℕ) :
    (self.after_eviction frame_size).1 <:+ self.frames :=
  (evict_frames_suffix _ _ _).trans (evict_bytes_suffix _ _ _ _)

/-- `push` splits the old frames and the new one into what it evicted and what it
holds: it drops from the front only, and nothing is lost or reordered. -/
theorem evicted_append_push (self : ContextBuffer) (frame : TelemetryFrame) :
    self.evicted frame ++ (self.push frame).frames = self.frames ++ [frame] := by
  obtain ⟨dropped, hd⟩ := self.after_eviction_suffix frame.payload.length
  have hlen : self.frames.length - (self.after_eviction frame.payload.length).1.length
      = dropped.length := by
    rw [← hd, List.length_append, Nat.add_sub_cancel_right]
  have hev : self.evicted frame = dropped := by
    rw [evicted, hlen, ← hd, List.take_left']
    rfl
  -- `push` keeps the frames behind the dropped ones, and appends
  rw [hev, push, ← hd]
  exact (List.append_assoc _ _ _).symm

end ContextBuffer

end SovereignEdgeTee
