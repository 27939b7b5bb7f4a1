/-
`verification/SovereignEdge/ContextBuffer.lean`, the repository's own model of the context
buffer, and the buffer of the crate as a refinement of it.

The model keeps the size of each frame and no more. It has no byte counter: its first loop
adds the sizes up anew for each frame it looks at. The crate keeps the total beside the
frames and subtracts from it. The two agree as long as the total is that of the frames,
which every call keeps (`run_windowed`), so a run of the buffer is a run of the model
(`run_refines`), and what is proved of a `push` of the model holds of one of the crate.
-/
import SovereignEdgeTee.ContextWindow

set_option autoImplicit false

/-! ## The model

The definitions are those of the file. It proves that each cap holds after a `push` under a
condition, and gives an example where the condition fails; here the conditions are shown to be
the right ones for every list of frames. -/

namespace SovereignEdge.ContextBuffer

def total : List ℕ → ℕ
  | [] => 0
  | x :: xs => x + total xs

/-- The first loop of `push`. -/
def evictBytes (maxBytes newSize : ℕ) : List ℕ → List ℕ
  | [] => []
  | x :: xs =>
    if total (x :: xs) + newSize > maxBytes then evictBytes maxBytes newSize xs else x :: xs

/-- The second loop of `push`. -/
def evictFrames (maxFrames : ℕ) : List ℕ → List ℕ
  | [] => []
  | x :: xs => if xs.length + 1 ≥ maxFrames then evictFrames maxFrames xs else x :: xs

def push (maxFrames maxBytes newSize : ℕ) (frames : List ℕ) : List ℕ :=
  evictFrames maxFrames (evictBytes maxBytes newSize frames) ++ [newSize]

variable (maxFrames maxBytes newSize : ℕ)

theorem total_append (xs ys : List ℕ) : total (xs ++ ys) = total xs + total ys := by
  induction xs with
  | nil => simp [total]
  | cons x xs ih =>
      simp only [List.cons_append, total, ih]
      omega

/-- The first loop makes room for the new frame, or leaves nothing. -/
theorem evictBytes_spec (frames : List ℕ) :
    total (evictBytes maxBytes newSize frames) + newSize ≤ maxBytes ∨
      evictBytes maxBytes newSize frames = [] := by
  induction frames with
  | nil => exact Or.inr rfl
  | cons x xs ih =>
      unfold evictBytes
      split
      · exact ih
      · exact Or.inl (by omega)

/-- The second loop makes room for one frame, or leaves nothing. -/
theorem evictFrames_spec (frames : List ℕ) :
    (evictFrames maxFrames frames).length + 1 ≤ maxFrames ∨
      evictFrames maxFrames frames = [] := by
  induction frames with
  | nil => exact Or.inr rfl
  | cons x xs ih =>
      unfold evictFrames
      split
      · exact ih
      · refine Or.inl ?_
        rw [List.length_cons]
        omega

theorem evictFrames_total_le (frames : List ℕ) :
    total (evictFrames maxFrames frames) ≤ total frames := by
  induction frames with
  | nil => exact Nat.le_refl _
  | cons x xs ih =>
      unfold evictFrames
      split
      · rw [total]
        omega
      · exact Nat.le_refl _

/-- The byte cap holds after a push just when the new frame alone is under it. -/
theorem push_bytes_bound (frames : List ℕ) :
    total (push maxFrames maxBytes newSize frames) ≤ maxBytes ↔ newSize ≤ maxBytes := by
  have hsplit : total (push maxFrames maxBytes newSize frames) =
      total (evictFrames maxFrames (evictBytes maxBytes newSize frames)) + newSize := by
    rw [push, total_append]
    rfl
  have hle := evictFrames_total_le maxFrames (evictBytes maxBytes newSize frames)
  rw [hsplit]
  constructor
  · intro h
    omega
  · intro hfit
    rcases evictBytes_spec maxBytes newSize frames with hroom | hnil
    · omega
    · -- nothing is left but the new frame
      rw [hnil] at hle ⊢
      rw [total] at hle
      omega

/-- The frame cap holds after a push just when it allows a frame at all. -/
theorem push_frames_bound (frames : List ℕ) :
    (push maxFrames maxBytes newSize frames).length ≤ maxFrames ↔ 1 ≤ maxFrames := by
  rw [push, List.length_append, List.length_singleton]
  constructor
  · intro h
    omega
  · intro hcap
    rcases evictFrames_spec maxFrames (evictBytes maxBytes newSize frames) with
      hroom | hnil
    · exact hroom
    · rw [hnil]
      exact hcap

end SovereignEdge.ContextBuffer

/-! ## The refinement

The abstraction is `sizes`: of each frame the model keeps the length of its payload. One call
of the crate is then one `push` of the model, and `run_refines` says it for every list of
calls. -/

namespace SovereignEdgeTee

/-- What the model keeps of the frames of a buffer. -/
def sizes (frames : List TelemetryFrame) : List ℕ := frames.map fun frame => frame.payload.length

theorem total_sizes (frames : List TelemetryFrame) :
    SovereignEdge.ContextBuffer.total (sizes frames) = payload_bytes frames := by
  induction frames with
  | nil => rfl
  | cons frame frames ih =>
      rw [payload_bytes_cons, ← ih]
      rfl

namespace ContextBuffer

/-- The loops of the crate are those of the model, as long as the counter is right. -/
theorem evict_bytes_refines (max_bytes frame_size : ℕ) (frames : List TelemetryFrame) :
    sizes (evict_bytes max_bytes frame_size frames (payload_bytes frames)).1 =
        SovereignEdge.ContextBuffer.evictBytes max_bytes frame_size (sizes frames) ∧
      (evict_bytes max_bytes frame_size frames (payload_bytes frames)).2 =
        payload_bytes (evict_bytes max_bytes frame_size frames (payload_bytes frames)).1 := by
  induction frames with
  | nil => exact ⟨rfl, rfl⟩
  | cons oldest rest ih =>
      have hsizes : sizes (oldest :: rest) = oldest.payload.length :: sizes rest := rfl
      have htotal := total_sizes (oldest :: rest)
      rw [hsizes] at htotal
      rw [evict_bytes, hsizes, SovereignEdge.ContextBuffer.evictBytes, htotal]
      split
      · rw [payload_bytes_cons_sub]
        exact ih
      · exact ⟨hsizes, rfl⟩

theorem evict_frames_refines (max_frames : ℕ) (frames : List TelemetryFrame) (total_bytes : ℕ) :
    sizes (evict_frames max_frames frames total_bytes).1 =
      SovereignEdge.ContextBuffer.evictFrames max_frames (sizes frames) := by
  induction frames generalizing total_bytes with
  | nil => rfl
  | cons oldest rest ih =>
      have hsizes : sizes (oldest :: rest) = oldest.payload.length :: sizes rest := rfl
      have hlength : (sizes rest).length + 1 = (oldest :: rest).length := by
        rw [sizes, List.length_map, List.length_cons]
      rw [evict_frames, hsizes, SovereignEdge.ContextBuffer.evictFrames, hlength]
      split
      · exact ih _
      · exact hsizes

/-- A push of the crate is a push of the model. -/
theorem push_refines {buffer : ContextBuffer}
    (htotal : buffer.total_bytes = payload_bytes buffer.frames) (frame : TelemetryFrame) :
    sizes (buffer.push frame).frames =
      SovereignEdge.ContextBuffer.push buffer.max_frames buffer.max_bytes frame.payload.length
        (sizes buffer.frames) := by
  obtain ⟨hbytes, -⟩ := evict_bytes_refines buffer.max_bytes frame.payload.length buffer.frames
  have happend : sizes (buffer.push frame).frames =
      sizes (buffer.after_eviction frame.payload.length).1 ++ [frame.payload.length] :=
    List.map_append
  rw [happend, after_eviction, htotal, evict_frames_refines, hbytes]
  rfl

/-- Both caps of the buffer hold. -/
def WithinCaps (buffer : ContextBuffer) : Prop :=
  buffer.len ≤ buffer.max_frames ∧ buffer.total_bytes ≤ buffer.max_bytes

end ContextBuffer

/-- A call of the buffer's owner, on the model. -/
def BufferCall.model_step (max_frames max_bytes : ℕ) (frames : List ℕ) : BufferCall → List ℕ
  | .push frame =>
    SovereignEdge.ContextBuffer.push max_frames max_bytes frame.payload.length frames
  | .clear => []

/-- The model after `calls`. -/
def model_run (max_frames max_bytes : ℕ) (calls : List BufferCall) : List ℕ :=
  calls.foldl (BufferCall.model_step max_frames max_bytes) []

/-- The buffer and the model run side by side. -/
theorem run_refines (max_frames max_bytes : ℕ) (calls : List BufferCall) :
    sizes ((ContextBuffer.new max_frames max_bytes).run calls).frames =
      model_run max_frames max_bytes calls := by
  induction calls using List.reverseRecOn with
  | nil => rfl
  | append_singleton calls call ih =>
      have h := run_windowed max_frames max_bytes calls
      rw [ContextBuffer.run, model_run, List.foldl_concat, List.foldl_concat]
      rw [ContextBuffer.run] at h ih
      cases call with
      | clear => rfl
      | push frame =>
          rw [BufferCall.step, BufferCall.model_step, ContextBuffer.push_refines h.total_bytes, ih,
            h.caps.1, h.caps.2]
          rfl

/-- The caps of the buffer are about what the model keeps. -/
theorem withinCaps_run_iff (max_frames max_bytes : ℕ) (calls : List BufferCall) :
    ((ContextBuffer.new max_frames max_bytes).run calls).WithinCaps ↔
      (model_run max_frames max_bytes calls).length ≤ max_frames ∧
        SovereignEdge.ContextBuffer.total (model_run max_frames max_bytes calls) ≤ max_bytes := by
  have h := run_windowed max_frames max_bytes calls
  rw [ContextBuffer.WithinCaps, h.caps.1, h.caps.2, h.total_bytes, ← run_refines, total_sizes,
    sizes, List.length_map]
  rfl

/-- A push leaves both caps met just when the new frame meets them alone. -/
theorem withinCaps_push_iff (max_frames max_bytes : ℕ) (calls : List BufferCall)
    (frame : TelemetryFrame) :
    ((ContextBuffer.new max_frames max_bytes).run (calls ++ [.push frame])).WithinCaps ↔
      1 ≤ max_frames ∧ frame.payload.length ≤ max_bytes := by
  rw [withinCaps_run_iff, model_run, List.foldl_concat, BufferCall.model_step,
    SovereignEdge.ContextBuffer.push_frames_bound, SovereignEdge.ContextBuffer.push_bytes_bound]

/-- **The buffer refines its model.** After any calls the frames of the buffer have the sizes
the model has, and its counter is the total of the model. Both caps hold after every call
just when every frame that was pushed meets them alone. -/
theorem context_buffer_refines (max_frames max_bytes : ℕ) (calls : List BufferCall) :
    sizes ((ContextBuffer.new max_frames max_bytes).run calls).frames =
        model_run max_frames max_bytes calls ∧
      ((ContextBuffer.new max_frames max_bytes).run calls).total_bytes =
        SovereignEdge.ContextBuffer.total (model_run max_frames max_bytes calls) ∧
      ((∀ earlier, earlier <+: calls →
          ((ContextBuffer.new max_frames max_bytes).run earlier).WithinCaps) ↔
        ∀ frame, BufferCall.push frame ∈ calls →
          1 ≤ max_frames ∧ frame.payload.length ≤ max_bytes) := by
  have hrun := run_refines max_frames max_bytes calls
  refine ⟨hrun, ?_, ?_⟩
  · rw [← hrun, total_sizes, (run_windowed max_frames max_bytes calls).total_bytes]
  · constructor
    · intro h frame hframe
      -- the caps hold behind the push of this frame
      obtain ⟨before, after, rfl⟩ := List.append_of_mem hframe
      refine (withinCaps_push_iff max_frames max_bytes before frame).mp (h _ ?_)
      exact ⟨after, by rw [List.append_assoc, List.singleton_append]⟩
    · rintro h earlier ⟨later, rfl⟩
      -- only the last call matters, whatever was evicted before
      rcases List.eq_nil_or_concat earlier with rfl | ⟨before, call, rfl⟩
      · exact ⟨Nat.zero_le _, Nat.zero_le _⟩
      · rw [List.concat_eq_append] at h ⊢
        cases call with
        | push frame =>
            rw [withinCaps_push_iff]
            exact h frame (by simp)
        | clear =>
            rw [ContextBuffer.run, List.foldl_concat]
            exact ⟨Nat.zero_le _, Nat.zero_le _⟩

end SovereignEdgeTee
