/-
What becomes of the frames an agent spools while it is offline.

`transition_mode` announces that it flushes the spooled state to the cloud backend
and then clears the context buffer. Nothing is sent: a frame that was only inferred
on locally is gone, without having been offloaded and without having been evicted
by the caps of the buffer.

`spool_accounted` is the exact extent of it. In every run in which the agent never
comes back online over a buffer that still holds such a frame, every frame is
accounted for at every moment: offloaded, in the buffer, or evicted by a push.
-/
import SovereignEdgeTee.EdgeAgent

set_option autoImplicit false

namespace SovereignEdgeTee.EdgeAgent

open Mealy

/-! ## The history of the frames

Four lists read off the log: what was passed to the agent, what it handed to the cloud, what a
push evicted, and what was processed offline. A frame is the numbered one throughout, as the
agent stores it and sends it. -/

/-- The frames passed to `process_frame`, as it numbered them. -/
def passed : List LogEntry → List TelemetryFrame
  | [] => []
  | e :: older =>
    match e.input with
    | .process_frame frame _ => e.before.numbered frame :: passed older
    | _ => passed older

/-- The frames handed to `process_cloud_offload`. -/
def offloaded (log : List LogEntry) : List TelemetryFrame :=
  log.flatMap fun e => e.output.effects.filterMap fun
    | .cloud_offload frame => some frame
    | _ => none

/-- The frames a push evicted because of the caps of the buffer. -/
def evictions : List LogEntry → List TelemetryFrame
  | [] => []
  | e :: older =>
    match e.input with
    | .process_frame frame _ =>
      e.before.context_buffer.evicted (e.before.numbered frame) ++ evictions older
    | _ => evictions older

/-- The frames processed while the mode was `Offline`: these were inferred on locally
and went nowhere else. -/
def spooled : List LogEntry → List TelemetryFrame
  | [] => []
  | e :: older =>
    match e.input with
    | .process_frame frame _ =>
      if e.before.mode = .Offline then e.before.numbered frame :: spooled older
      else spooled older
    | _ => spooled older

/-- Every frame passed to the agent was offloaded, is in the buffer, or was evicted. -/
def Accounted (self : EdgeAgent) (log : List LogEntry) : Prop :=
  ∀ frame ∈ passed log,
    frame ∈ offloaded log ∨ frame ∈ self.context_buffer.frames ∨ frame ∈ evictions log

/-- A report that brings the agent back online comes when no frame of the buffer was
processed offline. Every other call is free. -/
def FlushesNothing (older : List LogEntry) (e : LogEntry) : Prop :=
  match e.input with
  | .update_network_quality quality =>
    e.before.mode ≠ .Online → quality.is_offline = false → quality.is_degraded = false →
      ∀ frame ∈ e.before.context_buffer.frames, frame ∉ spooled older
  | _ => True

instance (older : List LogEntry) (e : LogEntry) : Decidable (FlushesNothing older e) :=
  match e with
  | ⟨s, .update_network_quality quality, _⟩ =>
    inferInstanceAs (Decidable (s.mode ≠ .Online → quality.is_offline = false →
      quality.is_degraded = false → ∀ frame ∈ s.context_buffer.frames, frame ∉ spooled older))
  | ⟨_, .process_frame _ _, _⟩ => isTrue trivial
  | ⟨_, .probe_network_quality _ _, _⟩ => isTrue trivial
  | ⟨_, .set_local_backend _, _⟩ => isTrue trivial
  | ⟨_, .set_mode_change_callback _, _⟩ => isTrue trivial

/-! ## One call

`held` is the part of the invariant that carries the proof: a frame that is in the buffer was
offloaded, or it was processed offline. When a report clears the buffer, the guard leaves only
the first of these, so the frame that goes missing from the buffer is among those offloaded. -/

/-- What the run keeps: a frame of the buffer was offloaded or processed offline, and
every frame is accounted for. -/
structure SpoolInv (agent : EdgeAgent) (log : List LogEntry) : Prop where
  coherent : agent.Coherent
  held : ∀ frame ∈ agent.context_buffer.frames, frame ∈ offloaded log ∨ frame ∈ spooled log
  accounted : agent.Accounted log

/-- A call that leaves the buffer alone and processes no frame changes nothing. -/
theorem SpoolInv.idle {self self' : EdgeAgent} {log : List LogEntry} {e : LogEntry}
    (h : SpoolInv self log) (hc : self'.Coherent)
    (hb : self'.context_buffer = self.context_buffer)
    (hp : passed (e :: log) = passed log) (ho : offloaded (e :: log) = offloaded log)
    (hv : evictions (e :: log) = evictions log) (hs : spooled (e :: log) = spooled log) :
    SpoolInv self' (e :: log) := by
  refine ⟨hc, ?_, ?_⟩
  · rw [hb, ho, hs]
    exact h.held
  · unfold Accounted
    rw [hp, ho, hb, hv]
    exact h.accounted

section ProcessFrame

variable {self : EdgeAgent} {log : List LogEntry} (frame : TelemetryFrame) (now : UInt64)

/-- A further step takes no frame from those offloaded. -/
theorem offloaded_subset (e : LogEntry) (log : List LogEntry) :
    offloaded log ⊆ offloaded (e :: log) :=
  List.subset_append_right _ _

theorem spooled_process_frame (self : EdgeAgent) (log : List LogEntry) :
    spooled (entry step self (.process_frame frame now) :: log)
      = if self.mode = .Offline then self.numbered frame :: spooled log else spooled log :=
  rfl

/-- A frame that is processed is offloaded at once, or the mode is `Offline`. -/
theorem Coherent.routed (h : self.Coherent) (log : List LogEntry) :
    self.numbered frame ∈ offloaded (entry step self (.process_frame frame now) :: log) ∨
      self.numbered frame ∈ spooled (entry step self (.process_frame frame now) :: log) := by
  by_cases hm : self.mode = .Offline
  · right
    rw [spooled_process_frame, if_pos hm]
    exact List.mem_cons_self
  · left
    have hq : ¬ self.network_quality.is_offline = true := by
      rw [← h.mode_eq_offline]
      exact hm
    have heff : (self.process_frame frame now).2.2 = [.cloud_offload (self.numbered frame)] := by
      rw [h.process_frame_eq frame now, if_neg hq]
      rfl
    rw [offloaded, List.flatMap_cons]
    refine List.mem_append_left _ ?_
    show self.numbered frame ∈ List.filterMap _ (self.process_frame frame now).2.2
    rw [heff]
    exact List.mem_singleton_self _

/-- What was in the buffer, or comes in, is evicted or held afterwards. -/
theorem held_or_evicted (buffer : ContextBuffer) {f stored : TelemetryFrame}
    (hmem : f ∈ buffer.frames ++ [stored]) :
    f ∈ (buffer.push stored).frames ∨ f ∈ buffer.evicted stored := by
  rw [← buffer.evicted_append_push stored] at hmem
  exact (List.mem_append.mp hmem).symm

/-- `process_frame` stores the frame, and a frame it does not offload was processed
offline. -/
theorem SpoolInv.process_frame (h : SpoolInv self log) :
    SpoolInv (self.step (.process_frame frame now)).1
      (entry step self (.process_frame frame now) :: log) := by
  set stored := self.numbered frame with hstored
  set log' := entry step self (.process_frame frame now) :: log with hlog'
  have hbuf : (self.step (.process_frame frame now)).1.context_buffer
      = self.context_buffer.push stored := process_frame_context_buffer self frame now
  have hoff : offloaded log ⊆ offloaded log' := offloaded_subset _ _
  have hspool : spooled log ⊆ spooled log' := by
    rw [hlog', spooled_process_frame]
    split
    · exact List.subset_cons_self _ _
    · exact List.Subset.refl _
  refine ⟨?_, ?_, ?_⟩
  · obtain ⟨h1, h2⟩ := process_frame_mode_quality self frame now
    exact h1.trans (h.coherent.trans (determine_mode_congr h2.symm))
  · intro f hf
    rw [hbuf] at hf
    have hmem : f ∈ self.context_buffer.frames ++ [stored] := by
      rw [← self.context_buffer.evicted_append_push stored]
      exact List.mem_append_right _ hf
    rcases List.mem_append.mp hmem with hold | hnew
    · exact (h.held f hold).imp (fun x => hoff x) (fun x => hspool x)
    · -- the new frame: offloaded at once, unless the mode is `Offline`
      rw [List.mem_singleton.mp hnew]
      exact h.coherent.routed frame now log
  · intro f hf
    rw [hbuf]
    show f ∈ offloaded log' ∨ f ∈ (self.context_buffer.push stored).frames ∨
      f ∈ self.context_buffer.evicted stored ++ evictions log
    have hkeep : f ∈ self.context_buffer.frames ++ [stored] →
        f ∈ (self.context_buffer.push stored).frames ∨
          f ∈ self.context_buffer.evicted stored ++ evictions log := by
      intro hmem
      exact (held_or_evicted _ hmem).imp_right (List.mem_append_left _)
    rcases List.mem_cons.mp hf with rfl | hf
    · exact Or.inr (hkeep (List.mem_append_right _ (List.mem_singleton_self _)))
    · rcases h.accounted f hf with h1 | h1 | h1
      · exact Or.inl (hoff h1)
      · -- an old frame of the buffer stays in it or is evicted by the push
        exact Or.inr (hkeep (List.mem_append_left _ h1))
      · exact Or.inr (Or.inr (List.mem_append_right _ h1))

end ProcessFrame

/-- A report keeps every frame accounted for, provided it flushes nothing that was
only processed offline. -/
theorem SpoolInv.update {self : EdgeAgent} {log : List LogEntry} (h : SpoolInv self log)
    (quality : NetworkQuality)
    (hok : FlushesNothing log (entry step self (.update_network_quality quality))) :
    SpoolInv (self.step (.update_network_quality quality)).1
      (entry step self (.update_network_quality quality) :: log) := by
  obtain ⟨hq, hc, hb⟩ := update_network_quality_spec self quality
  set self' := (self.update_network_quality quality).1 with hself'
  set log' := entry step self (.update_network_quality quality) :: log with hlog'
  have hoff : offloaded log ⊆ offloaded log' := offloaded_subset _ _
  have hpassed : passed log' = passed log := rfl
  have hevict : evictions log' = evictions log := rfl
  have hspool : spooled log' = spooled log := rfl
  refine ⟨hc, ?_, ?_⟩
  · intro f hf
    -- a report adds nothing to the buffer
    have hf' : f ∈ self.context_buffer.frames := by
      have hmem : f ∈ self'.context_buffer.frames := hf
      rw [hb] at hmem
      split at hmem
      · simp at hmem
      · exact hmem
    rw [hspool]
    exact (h.held f hf').imp_left fun x => hoff x
  · intro f hf
    rw [hpassed] at hf
    rw [hevict]
    rcases h.accounted f hf with h1 | h1 | h1
    · exact Or.inl (hoff h1)
    · by_cases hon : self'.mode = .Online ∧ self.mode ≠ .Online
      · -- the buffer is cleared: by the guard, what it held was offloaded
        have hdet : self'.determine_mode = .Online := by rw [← hc, hon.1]
        have hgood := determine_mode_eq_online hdet
        rw [hq] at hgood
        have hns := hok hon.2 hgood.1 hgood.2 f h1
        exact Or.inl (hoff ((h.held f h1).resolve_right hns))
      · right
        left
        show f ∈ self'.context_buffer.frames
        rw [hb, if_neg hon]
        exact h1
    · exact Or.inr (Or.inr h1)

theorem SpoolInv.step {self : EdgeAgent} {log : List LogEntry} (h : SpoolInv self log)
    (call : AgentCall) (hok : FlushesNothing log (entry step self call)) :
    SpoolInv (self.step call).1 (entry EdgeAgent.step self call :: log) := by
  cases call with
  | update_network_quality quality => exact h.update quality hok
  | process_frame frame now => exact h.process_frame frame now
  | probe_network_quality draws now => exact h.idle h.coherent rfl rfl rfl rfl rfl
  | set_local_backend backend => exact h.idle h.coherent rfl rfl rfl rfl rfl
  | set_mode_change_callback callback => exact h.idle h.coherent rfl rfl rfl rfl rfl

/-! ## Whole runs

`recovery_discards_spool` is the run that the guard leaves out: a frame is processed offline,
the link comes back, and `transition_mode` clears the buffer without having sent anything. -/

/-- **Every frame is accounted for**, at every moment of every run in which no report
brings the agent back online over a frame it only processed offline. -/
theorem spool_accounted (probe_interval_secs : ℕ) (calls : List AgentCall)
    (h : Guarded FlushesNothing (run probe_interval_secs calls).2) :
    Accounted (run probe_interval_secs calls).1 (run probe_interval_secs calls).2 := by
  have hinv : SpoolInv (run probe_interval_secs calls).1 (run probe_interval_secs calls).2 := by
    refine exec_induction_of step (I := SpoolInv) Guarded.tail ?_ ?_ calls h
    · exact ⟨new_coherent probe_interval_secs, by simp [new], by simp [Accounted, passed]⟩
    · intro s log call hlog hs
      exact hs.step call hlog.1
  exact hinv.accounted

/-- A link that is down. -/
def down : NetworkQuality :=
  ⟨F64.ofInt 10000, F64.ofInt 100, F64.ofInt 0, F64.ofInt 0, 0⟩

/-- A link that is slow. -/
def slow : NetworkQuality :=
  ⟨F64.ofInt 300, F64.ofInt 10, F64.ofInt 60, F64.ofInt 5, 0⟩

/-- A link that is good. -/
def good : NetworkQuality :=
  ⟨F64.ofInt 50, F64.ofInt 0, F64.ofInt 5, F64.ofInt 100, 0⟩

/-- A frame of four bytes. -/
def sample_frame : TelemetryFrame := ⟨0, "192.168.1.1", none, 0, [1, 2, 3, 4]⟩

/-- A frame processed offline survives a recovery to `Degraded`. -/
theorem spool_accounted_degraded :
    Guarded FlushesNothing (run 5 [.update_network_quality down,
      .process_frame sample_frame 0, .update_network_quality slow]).2 ∧
    Accounted (run 5 [.update_network_quality down, .process_frame sample_frame 0,
        .update_network_quality slow]).1
      (run 5 [.update_network_quality down, .process_frame sample_frame 0,
        .update_network_quality slow]).2 :=
  have h : Guarded FlushesNothing (run 5 [.update_network_quality down,
      .process_frame sample_frame 0, .update_network_quality slow]).2 := by decide +kernel
  ⟨h, spool_accounted 5 _ h⟩

/-- A frame processed offline is lost by a recovery to `Online`: not offloaded, not in
the buffer, not evicted. -/
theorem recovery_discards_spool :
    ¬ ∀ (probe_interval_secs : ℕ) (calls : List AgentCall),
      Accounted (run probe_interval_secs calls).1 (run probe_interval_secs calls).2 := by
  intro h
  have hrun := h 5 [.update_network_quality down, .process_frame sample_frame 0,
    .update_network_quality good]
  revert hrun
  unfold Accounted
  decide +kernel

end SovereignEdgeTee.EdgeAgent
