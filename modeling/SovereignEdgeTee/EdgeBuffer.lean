/-
The context buffer of an agent over whole runs.

`process_frame` pushes the frame it numbered, in every mode, and a report that brings the
agent online clears the buffer. Nothing else touches it. So the buffer is the window of the
frames processed since the agent last came online, under the caps of `EdgeAgent::new`: 100
frames and 10 MiB. What the agent numbers it numbers one by one, so the window has no gaps.
-/
import SovereignEdgeTee.VerifiedBuffer
import SovereignEdgeTee.EdgeFailSafe

set_option autoImplicit false

namespace SovereignEdgeTee

open Mealy SlidingWindow

namespace EdgeAgent

/-- The caps of `EdgeAgent::new`. -/
def frame_cap : ℕ := 100

def byte_cap : ℕ := 10 * 1024 * 1024

/-- A report that brings an agent online. -/
def comes_online (e : LogEntry) : Bool :=
  match e.input with
  | .update_network_quality quality =>
    decide (e.before.mode ≠ .Online) && !quality.is_offline && !quality.is_degraded
  | _ => false

/-- The frames processed since the agent last came online, as it numbered them, oldest
first. -/
def since_online : List LogEntry → List TelemetryFrame
  | [] => []
  | e :: older =>
    match e.input with
    | .process_frame frame _ => since_online older ++ [e.before.numbered frame]
    | _ => if comes_online e then [] else since_online older

/-! ## The numbers of the frames

`NumberedTo last` reads the ids from the newest frame down, since the counter only tells what the
newest one is. Ids are `u64` and wrap, and subtraction wraps with them, so no bound is needed. -/

/-- The ids of the frames go up to `last`, one by one. -/
def NumberedTo (last : UInt64) (frames : List TelemetryFrame) : Prop :=
  frames.reverse.map TelemetryFrame.frame_id =
    (List.range frames.length).map fun age => last - UInt64.ofNat age

theorem NumberedTo.nil (last : UInt64) : NumberedTo last [] := rfl

theorem NumberedTo.push {last : UInt64} {frames : List TelemetryFrame} (h : NumberedTo last frames)
    {frame : TelemetryFrame} (hid : frame.frame_id = last + 1) :
    NumberedTo (last + 1) (frames ++ [frame]) := by
  have hage : ∀ age, last + 1 - UInt64.ofNat (age + 1) = last - UInt64.ofNat age := by
    intro age
    rw [UInt64.ofNat_add]
    show last + 1 - (UInt64.ofNat age + 1) = _
    grind
  -- the new frame has age zero, and every other frame is one older than before
  rw [NumberedTo, List.reverse_append, List.length_append, List.length_singleton,
    List.range_succ_eq_map, List.map_cons, List.map_map]
  show frame.frame_id :: frames.reverse.map TelemetryFrame.frame_id = _
  rw [h, hid]
  refine congrArg₂ List.cons ?_ ?_
  · exact (UInt64.sub_zero _).symm
  · exact List.map_congr_left fun age _ => (hage age).symm

/-- The newest frames are numbered as they all are. -/
theorem NumberedTo.get_recent {last : UInt64} {frames : List TelemetryFrame}
    (h : NumberedTo last frames) {buffer : ContextBuffer} (hbuffer : buffer.frames <:+ frames)
    (count : ℕ) :
    (buffer.get_recent count).map TelemetryFrame.frame_id =
      (List.range (min count buffer.len)).map fun age => last - UInt64.ofNat age := by
  obtain ⟨older, hframes⟩ := hbuffer
  -- what the buffer holds is the end of what was processed
  have hnewest : buffer.frames.reverse = frames.reverse.take buffer.len := by
    rw [← hframes, List.reverse_append, List.take_left']
    rw [List.length_reverse, ContextBuffer.len]
  have hlen : buffer.len ≤ frames.length := by
    rw [← hframes, List.length_append, ContextBuffer.len]
    omega
  rw [ContextBuffer.get_recent, hnewest, List.take_take, List.map_take, h, ← List.map_take,
    List.take_range]
  congr 2
  omega

/-! ## One call

`BufferInv` says that the buffer is the window of `since_online`. Both sides of that change in
two calls only: a processed frame is pushed on both, and a report that brings the agent online
empties both. The proof of the second goes through `comes_online`, which is stated on the report
alone. -/

/-- What the run keeps: the mode is coherent, the buffer is the window of what was processed
since the agent came online, and the last of that is numbered with the frame counter. -/
structure BufferInv (agent : EdgeAgent) (log : List LogEntry) : Prop where
  coherent : agent.Coherent
  windowed : Windowed frame_cap byte_cap (since_online log) agent.context_buffer
  numbered : NumberedTo agent.frame_counter (since_online log)

theorem process_frame_frame_counter (self : EdgeAgent) (frame : TelemetryFrame) (now : UInt64) :
    (self.process_frame frame now).1.frame_counter = self.frame_counter + 1 := by
  unfold process_frame
  dsimp only
  rw [buffer_frame_mode]
  split
  · rfl
  · split
    · rfl
    · rfl
  · rfl
  · rfl

theorem update_network_quality_frame_counter (self : EdgeAgent) (quality : NetworkQuality) :
    (self.update_network_quality quality).1.frame_counter = self.frame_counter := by
  rw [update_network_quality]
  dsimp only
  split
  · generalize EdgeAgent.determine_mode _ = new_mode
    cases new_mode <;> rfl
  · rfl

/-- Only a report that brings the agent online clears the buffer. -/
theorem update_network_quality_context_buffer (self : EdgeAgent) (quality : NetworkQuality) :
    (self.update_network_quality quality).1.context_buffer =
      if comes_online (entry step self (.update_network_quality quality)) then
        self.context_buffer.clear
      else self.context_buffer := by
  obtain ⟨-, -, hbuffer⟩ := self.update_network_quality_spec quality
  have honline : (self.update_network_quality quality).1.mode = .Online ↔
      quality.is_offline = false ∧ quality.is_degraded = false := by
    rw [update_mode_eq]
    cases quality.is_offline <;> cases quality.is_degraded <;> simp
  have hcomes : comes_online (entry step self (.update_network_quality quality)) =
      (decide (self.mode ≠ .Online) && !quality.is_offline && !quality.is_degraded) := rfl
  rw [hbuffer]
  refine if_congr ?_ rfl rfl
  rw [honline, hcomes, Bool.and_eq_true, Bool.and_eq_true, decide_eq_true_iff, Bool.not_eq_true',
    Bool.not_eq_true', and_comm, and_assoc]

theorem bufferInv_step (self : EdgeAgent) (log : List LogEntry) (call : AgentCall)
    (h : BufferInv self log) : BufferInv (self.step call).1 (entry step self call :: log) := by
  cases call with
  | update_network_quality quality =>
      obtain ⟨-, hcoherent, -⟩ := self.update_network_quality_spec quality
      have hbuffer := self.update_network_quality_context_buffer quality
      have hcounter := self.update_network_quality_frame_counter quality
      have hsince : since_online (entry step self (.update_network_quality quality) :: log) =
          if comes_online (entry step self (.update_network_quality quality)) then []
          else since_online log := rfl
      -- the window starts anew just when the buffer is cleared
      refine ⟨hcoherent, ?_, ?_⟩
      · rw [hsince]
        show Windowed _ _ _ (self.update_network_quality quality).1.context_buffer
        rw [hbuffer]
        split
        · exact h.windowed.clear
        · exact h.windowed
      · rw [hsince]
        show NumberedTo (self.update_network_quality quality).1.frame_counter _
        rw [hcounter]
        split
        · exact NumberedTo.nil _
        · exact h.numbered
  | process_frame frame now =>
      obtain ⟨hmode, hquality⟩ := self.process_frame_mode_quality frame now
      have hbuffer := self.process_frame_context_buffer frame now
      have hcounter := self.process_frame_frame_counter frame now
      refine ⟨?_, ?_, ?_⟩
      · show (self.process_frame frame now).1.mode = _
        rw [hmode, h.coherent]
        exact determine_mode_congr hquality.symm
      · show Windowed _ _ (since_online log ++ [self.numbered frame])
          (self.process_frame frame now).1.context_buffer
        rw [hbuffer]
        exact h.windowed.push _
      · show NumberedTo (self.process_frame frame now).1.frame_counter
          (since_online log ++ [self.numbered frame])
        rw [hcounter]
        exact h.numbered.push rfl
  | probe_network_quality draws now => exact ⟨h.coherent, h.windowed, h.numbered⟩
  | set_local_backend backend => exact ⟨h.coherent, h.windowed, h.numbered⟩
  | set_mode_change_callback callback => exact ⟨h.coherent, h.windowed, h.numbered⟩

theorem reachable_bufferInv (probe_interval_secs : ℕ) (calls : List AgentCall) :
    BufferInv (run probe_interval_secs calls).1 (run probe_interval_secs calls).2 :=
  exec_induction step (I := BufferInv)
    ⟨new_coherent probe_interval_secs, ⟨⟨rfl, rfl⟩, rfl, IsWindow.nil⟩, NumberedTo.nil _⟩
    bufferInv_step calls

/-! ## The caps

`EdgeAgent::new` gives 100 frames and 10 MiB. The first is never exceeded. The second is exceeded
by a frame that is larger than it alone, and by nothing else; from a buffer within its bytes each
step keeps it so just when its frame fits, and the rule for guarded runs makes that an
equivalence on whole runs. -/

/-- The caps of an agent allow a frame, so the window never has more than the cap. -/
theorem BufferInv.len_le {self : EdgeAgent} {log : List LogEntry} (h : BufferInv self log) :
    self.context_buffer.len ≤ frame_cap := by
  have hwindow := h.windowed.frames
  rw [ContextBuffer.len]
  rcases hlast : (since_online log).getLast? with _ | newest
  · rw [hwindow.empty (List.getLast?_eq_none_iff.mp hlast)]
    exact Nat.zero_le _
  · -- a frame that is too large alone is the only one
    by_cases hfits : fits frame_cap byte_cap [newest]
    · exact (hwindow.fitting newest hlast hfits).holds.1
    · rw [hwindow.oversized newest hlast hfits]
      exact (by decide : 1 ≤ frame_cap)

/-- A frame that is processed leaves the buffer within its bytes just when it fits alone. -/
theorem BufferInv.push_bytes_iff {self : EdgeAgent} {log : List LogEntry}
    (h : BufferInv self log) (frame : TelemetryFrame) :
    (self.context_buffer.push (self.numbered frame)).total_bytes ≤ byte_cap ↔
      frame.payload.length ≤ byte_cap := by
  have hpush := ContextBuffer.push_refines h.windowed.total_bytes (self.numbered frame)
  have htotal := total_sizes (self.context_buffer.push (self.numbered frame)).frames
  rw [(h.windowed.push (self.numbered frame)).total_bytes, ← htotal, hpush, h.windowed.caps.2]
  exact SovereignEdge.ContextBuffer.push_bytes_bound _ _ _ _

/-- A call that processes no frame that is larger than the buffer. -/
def FrameFits (call : AgentCall) : Prop :=
  ∀ frame now, call = .process_frame frame now → frame.payload.length ≤ byte_cap

theorem bytes_step_iff (self : EdgeAgent) (log : List LogEntry) (call : AgentCall)
    (h : BufferInv self log) (hbytes : self.context_buffer.total_bytes ≤ byte_cap) :
    (self.step call).1.context_buffer.total_bytes ≤ byte_cap ↔ FrameFits call := by
  cases call with
  | update_network_quality quality =>
      have hbuffer := self.update_network_quality_context_buffer quality
      refine iff_of_true ?_ (by rintro _ _ ⟨⟩)
      show (self.update_network_quality quality).1.context_buffer.total_bytes ≤ _
      rw [hbuffer]
      split
      · exact Nat.zero_le _
      · exact hbytes
  | process_frame frame now =>
      show (self.process_frame frame now).1.context_buffer.total_bytes ≤ _ ↔ _
      rw [process_frame_context_buffer, h.push_bytes_iff]
      constructor
      · rintro hfits _ _ ⟨⟩
        exact hfits
      · intro hfits
        exact hfits frame now rfl
  | probe_network_quality draws now =>
      exact iff_of_true hbytes (by rintro _ _ ⟨⟩)
  | set_local_backend backend => exact iff_of_true hbytes (by rintro _ _ ⟨⟩)
  | set_mode_change_callback callback =>
      exact iff_of_true hbytes (by rintro _ _ ⟨⟩)

/-- A step from a buffer within its bytes leaves it so just when its frame fits. -/
theorem bytes_guarded (agent : EdgeAgent) (log : List LogEntry) (call : AgentCall)
    (h : BufferInv agent log ∧ agent.context_buffer.total_bytes ≤ byte_cap) :
    (BufferInv (agent.step call).1 (entry step agent call :: log) ∧
      (agent.step call).1.context_buffer.total_bytes ≤ byte_cap) ↔
      FrameFits (entry step agent call).input :=
  (and_iff_right (bufferInv_step agent log call h.1)).trans
    (bytes_step_iff agent log call h.1 h.2)

/-- The bytes of the buffer stay under the cap just when every frame is under it. -/
theorem bytes_le_iff (probe_interval_secs : ℕ) (calls : List AgentCall) :
    (∀ earlier, earlier <+: calls →
        (run probe_interval_secs earlier).1.context_buffer.total_bytes ≤ byte_cap) ↔
      ∀ call ∈ calls, FrameFits call := by
  have hnew := reachable_bufferInv probe_interval_secs []
  rw [← guarded_input_iff step (new probe_interval_secs),
    ← always_iff_guarded step ⟨hnew, Nat.zero_le _⟩ bytes_guarded calls]
  constructor
  · intro h earlier hpre
    exact ⟨reachable_bufferInv probe_interval_secs earlier, h earlier hpre⟩
  · intro h earlier hpre
    exact (h earlier hpre).2

/-- **The buffer of an agent.** After every run the buffer holds the longest end of the
frames processed since the agent last came online that fits into 100 frames and 10 MiB, or
the newest frame, where that is too large alone. It never has more than 100 frames, its byte
counter is exact, and it stays within 10 MiB just as long as no larger frame is processed.
The newest frames are numbered down from the frame counter, without a gap. -/
theorem agent_buffer_window (probe_interval_secs : ℕ) (calls : List AgentCall) :
    let r := run probe_interval_secs calls
    let buffer := r.1.context_buffer
    IsWindow (fits frame_cap byte_cap) (since_online r.2) buffer.frames ∧
      buffer.len ≤ frame_cap ∧ buffer.total_bytes = payload_bytes buffer.frames ∧
      ((∀ earlier, earlier <+: calls →
          (run probe_interval_secs earlier).1.context_buffer.total_bytes ≤ byte_cap) ↔
        ∀ call ∈ calls, FrameFits call) ∧
      ∀ count, (buffer.get_recent count).map TelemetryFrame.frame_id =
        (List.range (min count buffer.len)).map fun age =>
          r.1.frame_counter - UInt64.ofNat age := by
  intro r buffer
  have h := reachable_bufferInv probe_interval_secs calls
  refine ⟨h.windowed.frames, h.len_le, h.windowed.total_bytes,
    bytes_le_iff probe_interval_secs calls, ?_⟩
  intro count
  exact h.numbered.get_recent h.windowed.frames.suffix count

end EdgeAgent

end SovereignEdgeTee
