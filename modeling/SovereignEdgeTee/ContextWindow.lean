/-
`ContextBuffer` of `crates/common/src/lib.rs` over whole runs of `push` and `clear`:
what it holds is the window of `SlidingWindow` over the frames pushed since the last
`clear`.

Each loop of `push` is a `shed` (`evict_bytes_spec`, `evict_frames_spec`), the first for
the byte cap and the second for the frame cap, so the two together are one `shed` for
both caps. The byte total is exact throughout, which is also why the `saturating_sub` of
the loops never saturates: one that did would leave more than the exact total.
-/
import SovereignEdgeTee.SlidingWindow
import SovereignEdgeTee.Common

set_option autoImplicit false

namespace SovereignEdgeTee

open SlidingWindow

/-! ## The payload bytes of a list of frames

The byte total the buffer is measured against. It is additive over lists and does not grow when
frames are left out, which makes meeting both caps a property that passes to sublists
(`fits_hereditary`), the one assumption of `SlidingWindow`. -/

/-- The payload bytes of `frames`. -/
def payload_bytes (frames : List TelemetryFrame) : ℕ :=
  (frames.map (fun frame => frame.payload.length)).sum

@[simp] theorem payload_bytes_nil : payload_bytes [] = 0 := rfl

@[simp] theorem payload_bytes_cons (frame : TelemetryFrame) (frames : List TelemetryFrame) :
    payload_bytes (frame :: frames) = frame.payload.length + payload_bytes frames :=
  List.sum_cons

/-- What is left of a total when its oldest frame goes. -/
theorem payload_bytes_cons_sub (frame : TelemetryFrame) (frames : List TelemetryFrame) :
    payload_bytes (frame :: frames) - frame.payload.length = payload_bytes frames := by
  rw [payload_bytes_cons]
  omega

@[simp] theorem payload_bytes_append (older newer : List TelemetryFrame) :
    payload_bytes (older ++ newer) = payload_bytes older + payload_bytes newer := by
  rw [payload_bytes, List.map_append, List.sum_append]
  rfl

theorem payload_bytes_sublist {held frames : List TelemetryFrame} (h : held.Sublist frames) :
    payload_bytes held ≤ payload_bytes frames := by
  induction h with
  | slnil => exact Nat.le_refl _
  | cons frame _ ih =>
      rw [payload_bytes_cons]
      omega
  | cons_cons frame _ ih =>
      rw [payload_bytes_cons, payload_bytes_cons]
      omega

/-- The two caps of a buffer, as a property of the frames it holds. -/
def fits (max_frames max_bytes : ℕ) (frames : List TelemetryFrame) : Prop :=
  frames.length ≤ max_frames ∧ payload_bytes frames ≤ max_bytes

instance fits.decidable (max_frames max_bytes : ℕ) : DecidablePred (fits max_frames max_bytes) :=
  fun _ => instDecidableAnd

theorem fits_hereditary (max_frames max_bytes : ℕ) : Hereditary (fits max_frames max_bytes) := by
  intro held frames hsub hfits
  have hlen := hsub.length_le
  have hbytes := payload_bytes_sublist hsub
  exact ⟨hlen.trans hfits.1, hbytes.trans hfits.2⟩

namespace ContextBuffer

/-! ## The two loops of `push`

Lines 132 to 142 of the source: while the new frame does not fit in the byte cap, remove the
oldest one; then, while there is no room in the frame cap, remove the oldest one. Each loop is
a `shed` with its own condition and keeps the byte total exact. The byte condition passes to
sublists, so by `shed_shed` the second loop only continues what the first one began. -/

/-- The first loop drops the oldest frames until the new one fits in the byte cap. -/
theorem evict_bytes_spec (max_bytes frame_size : ℕ) (frames : List TelemetryFrame) :
    evict_bytes max_bytes frame_size frames (payload_bytes frames)
      = (shed (fun l => payload_bytes l + frame_size ≤ max_bytes) frames,
        payload_bytes (shed (fun l => payload_bytes l + frame_size ≤ max_bytes) frames)) := by
  induction frames with
  | nil => rfl
  | cons oldest rest ih =>
      rw [evict_bytes, shed]
      by_cases hfit : payload_bytes (oldest :: rest) + frame_size ≤ max_bytes
      · rw [if_neg (by omega), if_pos hfit]
      · -- a round: the total loses just the payload of the frame popped
        rw [if_pos (by omega), if_neg hfit, payload_bytes_cons_sub, ih]

/-- The second loop drops the oldest frames until one more is allowed. -/
theorem evict_frames_spec (max_frames : ℕ) (frames : List TelemetryFrame) :
    evict_frames max_frames frames (payload_bytes frames)
      = (shed (fun l => l.length < max_frames) frames,
        payload_bytes (shed (fun l => l.length < max_frames) frames)) := by
  induction frames with
  | nil => rfl
  | cons oldest rest ih =>
      rw [evict_frames, shed]
      by_cases hroom : (oldest :: rest).length < max_frames
      · rw [if_neg (by omega), if_pos hroom]
      · rw [if_pos (by omega), if_neg hroom, payload_bytes_cons_sub, ih]

/-- Both loops together drop the oldest frames until the new one fits in both caps. -/
theorem after_eviction_spec (self : ContextBuffer) (frame : TelemetryFrame)
    (htotal : self.total_bytes = payload_bytes self.frames) :
    self.after_eviction frame.payload.length
      = (shed (fun l => fits self.max_frames self.max_bytes (l ++ [frame])) self.frames,
        payload_bytes
          (shed (fun l => fits self.max_frames self.max_bytes (l ++ [frame])) self.frames)) := by
  -- fewer frames in front of the new one fit as well
  have hbytes : Hereditary
      (fun l => payload_bytes l + frame.payload.length ≤ self.max_bytes) := by
    intro held frames hsub hle
    have := payload_bytes_sublist hsub
    omega
  -- room for one more frame under each cap is room for the new frame under both
  have hboth : (fun l => payload_bytes l + frame.payload.length ≤ self.max_bytes
        ∧ l.length < self.max_frames)
      = fun l => fits self.max_frames self.max_bytes (l ++ [frame]) := by
    funext l
    rw [fits, List.length_append, payload_bytes_append, payload_bytes_cons, payload_bytes_nil,
      List.length_singleton, eq_iff_iff]
    omega
  rw [after_eviction, htotal, evict_bytes_spec, evict_frames_spec, shed_shed hbytes]
  simp only [hboth]

end ContextBuffer

/-! ## Runs

`Windowed` is the invariant between two calls: the caps are those of `new`, the byte total is
exact and the frames are the window. `clear` starts it over, and `push` keeps it by the loops'
spec and `IsWindow.push`. -/

/-- A call of a buffer's owner. -/
inductive BufferCall where
  | push (frame : TelemetryFrame)
  | clear

namespace BufferCall

def step (buffer : ContextBuffer) : BufferCall → ContextBuffer
  | .push frame => buffer.push frame
  | .clear => buffer.clear

end BufferCall

namespace ContextBuffer

/-- The buffer after `calls`. -/
def run (self : ContextBuffer) (calls : List BufferCall) : ContextBuffer :=
  calls.foldl BufferCall.step self

end ContextBuffer

/-- The frames pushed since the last `clear` of `calls`, oldest first. -/
def since_clear (calls : List BufferCall) : List TelemetryFrame :=
  calls.foldl
    (fun pushed call =>
      match call with
      | .push frame => pushed ++ [frame]
      | .clear => [])
    []

/-- What is true of a buffer between two calls, `pushed` being what it was given since the
last `clear`. -/
structure Windowed (max_frames max_bytes : ℕ) (pushed : List TelemetryFrame)
    (buffer : ContextBuffer) : Prop where
  caps : buffer.max_frames = max_frames ∧ buffer.max_bytes = max_bytes
  total_bytes : buffer.total_bytes = payload_bytes buffer.frames
  frames : IsWindow (fits max_frames max_bytes) pushed buffer.frames

namespace Windowed

variable {max_frames max_bytes : ℕ} {pushed : List TelemetryFrame} {buffer : ContextBuffer}

theorem clear (h : Windowed max_frames max_bytes pushed buffer) :
    Windowed max_frames max_bytes [] buffer.clear :=
  ⟨h.caps, rfl, IsWindow.nil⟩

theorem push (h : Windowed max_frames max_bytes pushed buffer) (frame : TelemetryFrame) :
    Windowed max_frames max_bytes (pushed ++ [frame]) (buffer.push frame) := by
  have hleft := buffer.after_eviction_spec frame h.total_bytes
  rw [h.caps.1, h.caps.2] at hleft
  -- after the rewriting, `push` is the `shed` of both caps with the new frame behind it
  refine ⟨h.caps, ?_, ?_⟩
  · rw [ContextBuffer.push, hleft, payload_bytes_append, payload_bytes_cons, payload_bytes_nil]
    rfl
  · rw [ContextBuffer.push, hleft]
    exact h.frames.push (fits_hereditary max_frames max_bytes) frame

/-- What a push evicts is what the byte total loses: no subtraction saturates. -/
theorem evicted_exact (h : Windowed max_frames max_bytes pushed buffer) (frame : TelemetryFrame) :
    (buffer.after_eviction frame.payload.length).2 + payload_bytes (buffer.evicted frame)
      = buffer.total_bytes := by
  -- the bytes of what the push evicts and holds are those of what was there and the frame
  have hsplit := congrArg payload_bytes (buffer.evicted_append_push frame)
  rw [payload_bytes_append, payload_bytes_append, ← h.total_bytes,
    ← (h.push frame).total_bytes] at hsplit
  have htotal : (buffer.push frame).total_bytes
      = (buffer.after_eviction frame.payload.length).2 + frame.payload.length := rfl
  rw [payload_bytes_cons, payload_bytes_nil] at hsplit
  omega

end Windowed

/-- After any calls a new buffer is `Windowed` over what was pushed since the last `clear`. The
induction is on the calls from their end, with one lemma for each kind of call. -/
theorem run_windowed (max_frames max_bytes : ℕ) (calls : List BufferCall) :
    Windowed max_frames max_bytes (since_clear calls)
      ((ContextBuffer.new max_frames max_bytes).run calls) := by
  induction calls using List.reverseRecOn with
  | nil => exact ⟨⟨rfl, rfl⟩, rfl, IsWindow.nil⟩
  | append_singleton calls call ih =>
      rw [ContextBuffer.run, since_clear, List.foldl_concat, List.foldl_concat]
      cases call with
      | push frame => exact ih.push frame
      | clear => exact ih.clear

/-- `get_recent` is the end of the buffer, read backwards. -/
theorem ContextBuffer.get_recent_eq (self : ContextBuffer) (count : ℕ) :
    self.get_recent count = (self.frames.drop (self.len - count)).reverse := by
  rw [get_recent, List.take_reverse, len]

/-- **The buffer is a sliding window.** After any calls of `push` and `clear` it holds
the longest end of what was pushed since the last `clear` that meets both caps, or the
newest frame when that frame alone breaks one. The byte total is exact, before and while
the next push evicts, and `get_recent` reads the window from its end. -/
theorem context_buffer_window (max_frames max_bytes : ℕ) (calls : List BufferCall) :
    let buffer := (ContextBuffer.new max_frames max_bytes).run calls
    IsWindow (fits max_frames max_bytes) (since_clear calls) buffer.frames
      ∧ buffer.total_bytes = payload_bytes buffer.frames
      ∧ (∀ frame : TelemetryFrame,
          (buffer.after_eviction frame.payload.length).2 + payload_bytes (buffer.evicted frame)
            = buffer.total_bytes)
      ∧ ∀ count, buffer.get_recent count = (buffer.frames.drop (buffer.len - count)).reverse
          ∧ (buffer.get_recent count).length = min count buffer.len := by
  have h := run_windowed max_frames max_bytes calls
  refine ⟨h.frames, h.total_bytes, h.evicted_exact, ?_⟩
  intro count
  refine ⟨ContextBuffer.get_recent_eq _ count, ?_⟩
  rw [ContextBuffer.get_recent, List.length_take, List.length_reverse]
  rfl

end SovereignEdgeTee
