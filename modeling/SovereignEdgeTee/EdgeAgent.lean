/-
`crates/edge-agent/src/lib.rs` and the backend interface of `inference.rs`: the
agent that routes each telemetry frame by the quality of the link.

A method that reads the clock takes the reading as an argument. What the agent
does to the world outside (a frame handed to the cloud, a call of the local
backend, a call of the mode-change callback) is the list of effects a method
returns. A local backend is any program: it may keep a state, which is a function
of the calls it has had, so its answers are a function of those. The `u64` counters
wrap around, as a release build lets them.

The second half is about whole runs. `reachable_coherent` is the invariant that
carries everything: the mode is always the one the last quality report asks for.
`mode_coherence` reads off it what `process_frame` can answer.
-/
import SovereignEdgeTee.Mealy
import SovereignEdgeTee.Utf8
import SovereignEdgeTee.Common

set_option autoImplicit false

namespace SovereignEdgeTee

open Mealy

/-! ## Local inference

The trait `InferenceBackend` of `inference.rs` and the backend an agent starts with. A `Box<dyn
InferenceBackend>` may answer the same prompt differently each time, so the model keeps the calls
a backend has had and lets the answer depend on all of them. -/

inductive AgentError where
  | ProbeFailed
  | ModeTransitionFailed (reason : String)
  | InferenceFailed (reason : String)
deriving DecidableEq

/-- The `Display` of `AgentError`. -/
def AgentError.to_string : AgentError → String
  | .ProbeFailed => "Network probe failed"
  | .ModeTransitionFailed reason => "Mode transition failed: " ++ reason
  | .InferenceFailed reason => "Inference failed: " ++ reason

structure InferenceOutput where
  text : String
  tokens_generated : ℕ
  model_name : String
deriving DecidableEq

/-- A `Box<dyn InferenceBackend>`: the `infer` calls it has had, newest first, and
what it answers after them. -/
structure InferenceBackend where
  calls : List (String × ℕ)
  name_after : List (String × ℕ) → String
  infer_after : List (String × ℕ) → String → ℕ → Except AgentError InferenceOutput

namespace InferenceBackend

def name (self : InferenceBackend) : String := self.name_after self.calls

def infer (self : InferenceBackend) (prompt : String) (max_tokens : ℕ) :
    Except AgentError InferenceOutput × InferenceBackend :=
  (self.infer_after self.calls prompt max_tokens,
    { self with calls := (prompt, max_tokens) :: self.calls })

end InferenceBackend

def SimulatedBackend : InferenceBackend where
  calls := []
  name_after _ := "simulated"
  infer_after _ _ _ := .ok ⟨"LOCAL_SAFETY_CHECK", 0, "qwen2.5-0.5b (simulated)"⟩

/-! ## The agent

The struct and its methods, in the order of the source. `process_frame` is split where its
`match` begins: `buffer_frame` is what all four arms share, and each arm is a counter and a
routine of its own. The arms of the `match` in `transition_mode` only differ in the buffer. -/

inductive InferenceSource where
  | Cloud
  | Local
  | Hybrid
deriving DecidableEq, Repr

/-- `InferenceResult`. The confidence is an `f32`, kept as its bits; the metadata
map is the list of its entries. -/
structure InferenceResult where
  action : String
  confidence : UInt32
  metadata : List (String × String)
  timestamp : UInt64
  source : InferenceSource
deriving DecidableEq

structure AgentStats where
  frames_processed : UInt64
  cloud_offloads : UInt64
  local_inferences : UInt64
  mode_transitions : UInt64
  probe_count : UInt64
deriving DecidableEq

/-- What a method of the agent does to the world outside it. A callback is known by
a number, the closure it stands for being opaque. -/
inductive Effect where
  | cloud_offload (frame : TelemetryFrame)
  | local_inference (prompt : String) (max_tokens : ℕ)
  | mode_change (callback : ℕ) (old_mode new_mode : AgentMode)
deriving DecidableEq

structure EdgeAgent where
  mode : AgentMode
  network_quality : NetworkQuality
  context_buffer : ContextBuffer
  mode_change_callback : Option ℕ
  last_mode : AgentMode
  probe_interval : ℕ
  frame_counter : UInt64
  stats : AgentStats
  local_backend : InferenceBackend

namespace EdgeAgent

/-- The quality an agent starts with, before any report. -/
def initial_quality : NetworkQuality :=
  ⟨F64.ofInt 0, F64.ofInt 0, F64.ofInt 0, F64.ofInt 0, 0⟩

def new (probe_interval_secs : ℕ) : EdgeAgent where
  mode := .Online
  network_quality := initial_quality
  context_buffer := ContextBuffer.new 100 (10 * 1024 * 1024)
  mode_change_callback := none
  last_mode := .Online
  probe_interval := probe_interval_secs
  frame_counter := 0
  stats := ⟨0, 0, 0, 0, 0⟩
  local_backend := SimulatedBackend

def set_local_backend (self : EdgeAgent) (backend : InferenceBackend) : EdgeAgent :=
  { self with local_backend := backend }

def set_mode_change_callback (self : EdgeAgent) (callback : ℕ) : EdgeAgent :=
  { self with mode_change_callback := some callback }

/-- `EdgeAgent::probe_network_quality`. `draws` are the three results of
`rand::random`, `now` is the clock. -/
def probe_network_quality (self : EdgeAgent) (draws : F64 × F64 × F64) (now : UInt64) :
    EdgeAgent × NetworkQuality :=
  ({ self with stats := { self.stats with probe_count := self.stats.probe_count + 1 } },
    { latency_ms := (F64.ofInt 45).add (draws.1.mul (F64.ofInt 20))
      packet_loss_pct := draws.2.1.mul (F64.ofInt 2)
      jitter_ms := draws.2.2.mul (F64.ofInt 10)
      bandwidth_mbps := F64.ofInt 100
      measured_at := now })

def determine_mode (self : EdgeAgent) : AgentMode :=
  if self.network_quality.is_offline then .Offline
  else if self.network_quality.is_degraded then .Degraded
  else .Online

/-- `EdgeAgent::transition_mode`. The mode is `Transitioning` while the match runs;
its arms only touch the buffer, and only the `Online` one does. -/
def transition_mode (self : EdgeAgent) (new_mode : AgentMode) : EdgeAgent × List Effect :=
  let old_mode := self.mode
  let during := { self with mode := .Transitioning }
  let entered :=
    match new_mode with
    | .Online => { during with context_buffer := during.context_buffer.clear }
    | .Degraded => during
    | .Offline => during
    | .Transitioning => during
  ({ entered with
      mode := new_mode
      last_mode := old_mode
      stats := { entered.stats with mode_transitions := entered.stats.mode_transitions + 1 } },
    match entered.mode_change_callback with
    | some callback => [.mode_change callback old_mode new_mode]
    | none => [])

def update_network_quality (self : EdgeAgent) (quality : NetworkQuality) :
    EdgeAgent × List Effect :=
  let self := { self with network_quality := quality }
  let new_mode := self.determine_mode
  if new_mode ≠ self.mode then self.transition_mode new_mode else (self, [])

def can_reach_cloud (self : EdgeAgent) : Bool := !self.network_quality.is_offline

def process_cloud_offload (frame : TelemetryFrame) (now : UInt64) :
    InferenceResult × List Effect :=
  ({ action := "CLOUD_ANALYSIS_COMPLETE"
     confidence := 0x3F733333 -- 0.95
     metadata := [("model", "qwen-max")]
     timestamp := now
     source := .Cloud },
    [.cloud_offload frame])

/-- The prompt `process_local_inference` gives the backend. -/
def local_prompt (frame : TelemetryFrame) : String :=
  "Telemetry from " ++ frame.source_ip ++ ": " ++ Utf8.from_utf8_lossy frame.payload ++
    "\nSafety assessment:"

def process_local_inference (self : EdgeAgent) (frame : TelemetryFrame) (now : UInt64) :
    EdgeAgent × InferenceResult × List Effect :=
  let prompt := local_prompt frame
  let answer := self.local_backend.infer prompt 32
  let self := { self with local_backend := answer.2 }
  let result : InferenceResult :=
    match answer.1 with
    | .ok output =>
      { action := Utf8.trim output.text
        confidence := 0x3F400000 -- 0.75
        metadata := [("model", output.model_name), ("backend", self.local_backend.name),
          ("tokens", toString output.tokens_generated)]
        timestamp := now
        source := .Local }
    | .error e =>
      { action := "INFERENCE_ERROR"
        confidence := 0 -- 0.0
        metadata := [("error", e.to_string)]
        timestamp := now
        source := .Local }
  (self, result, [.local_inference prompt 32])

/-- The answer of `process_frame` while the mode is `Transitioning`. -/
def buffered_result (now : UInt64) : InferenceResult where
  action := "BUFFERED"
  confidence := 0
  metadata := []
  timestamp := now
  source := .Local

/-- The frame as `process_frame` numbers it: the counter is bumped, and replaces the
id the frame came with. -/
def numbered (self : EdgeAgent) (frame : TelemetryFrame) : TelemetryFrame :=
  { frame with frame_id := self.frame_counter + 1 }

/-- `process_frame` before its match: the counters are bumped and the numbered frame
is in the buffer. -/
def buffer_frame (self : EdgeAgent) (frame : TelemetryFrame) : EdgeAgent :=
  { self with
    frame_counter := self.frame_counter + 1
    stats := { self.stats with frames_processed := self.stats.frames_processed + 1 }
    context_buffer := self.context_buffer.push (self.numbered frame) }

/-- `self.stats.cloud_offloads += 1`. -/
def count_cloud (self : EdgeAgent) : EdgeAgent :=
  { self with stats := { self.stats with cloud_offloads := self.stats.cloud_offloads + 1 } }

/-- `self.stats.local_inferences += 1`. -/
def count_local (self : EdgeAgent) : EdgeAgent :=
  { self with stats := { self.stats with local_inferences := self.stats.local_inferences + 1 } }

def process_frame (self : EdgeAgent) (frame : TelemetryFrame) (now : UInt64) :
    EdgeAgent × InferenceResult × List Effect :=
  let stored := self.numbered frame
  let self := self.buffer_frame frame
  match self.mode with
  | .Online => (self.count_cloud, process_cloud_offload stored now)
  | .Degraded =>
    -- cloud first, with a fallback to local inference
    if self.can_reach_cloud then (self.count_cloud, process_cloud_offload stored now)
    else self.count_local.process_local_inference stored now
  | .Offline => self.count_local.process_local_inference stored now
  | .Transitioning => (self, buffered_result now, [])

end EdgeAgent

/-! ## Runs

A run is any list of calls from outside. The clock, the random draws and the backend that is
installed come with the call, so a theorem about all runs is about all of those too. -/

/-- A call of a method of the agent, with the clock and random readings it makes. -/
inductive AgentCall where
  | update_network_quality (quality : NetworkQuality)
  | process_frame (frame : TelemetryFrame) (now : UInt64)
  | probe_network_quality (draws : F64 × F64 × F64) (now : UInt64)
  | set_local_backend (backend : InferenceBackend)
  | set_mode_change_callback (callback : ℕ)

/-- What a call returns, and what it did outside the agent. -/
structure AgentReply where
  result : Option InferenceResult
  quality : Option NetworkQuality
  effects : List Effect

namespace EdgeAgent

/-- One call. -/
def step (self : EdgeAgent) : AgentCall → EdgeAgent × AgentReply
  | .update_network_quality quality =>
    let r := self.update_network_quality quality
    (r.1, ⟨none, none, r.2⟩)
  | .process_frame frame now =>
    let r := self.process_frame frame now
    (r.1, ⟨some r.2.1, none, r.2.2⟩)
  | .probe_network_quality draws now =>
    let r := self.probe_network_quality draws now
    (r.1, ⟨none, some r.2, []⟩)
  | .set_local_backend backend => (self.set_local_backend backend, ⟨none, none, []⟩)
  | .set_mode_change_callback callback =>
    (self.set_mode_change_callback callback, ⟨none, none, []⟩)

/-- A step of a run of the agent. -/
abbrev LogEntry := Entry EdgeAgent AgentCall AgentReply

/-- A run from a fresh agent. -/
def run (probe_interval_secs : ℕ) (calls : List AgentCall) : EdgeAgent × List LogEntry :=
  exec step (new probe_interval_secs) calls

/-! ## What the methods leave alone

Frame lemmas. Each proof about a whole run needs to know of `process_frame` that it moves neither
the mode nor the quality, and that it pushes the numbered frame in every mode; after these lemmas
no proof unfolds it for one of the four arms. -/

section Frame

variable (self : EdgeAgent) (frame : TelemetryFrame) (now : UInt64)

@[simp] theorem buffer_frame_mode : (self.buffer_frame frame).mode = self.mode := rfl

@[simp] theorem buffer_frame_network_quality :
    (self.buffer_frame frame).network_quality = self.network_quality := rfl

@[simp] theorem buffer_frame_context_buffer :
    (self.buffer_frame frame).context_buffer = self.context_buffer.push (self.numbered frame) := rfl

@[simp] theorem count_cloud_context_buffer :
    self.count_cloud.context_buffer = self.context_buffer := rfl

@[simp] theorem count_local_context_buffer :
    self.count_local.context_buffer = self.context_buffer := rfl

@[simp] theorem process_local_inference_context_buffer :
    (self.process_local_inference frame now).1.context_buffer = self.context_buffer := rfl

@[simp] theorem process_local_inference_effects :
    (self.process_local_inference frame now).2.2 = [.local_inference (local_prompt frame) 32] :=
  rfl

/-- Local inference answers with a `Local` result, whatever the backend did. -/
theorem process_local_inference_source :
    (self.process_local_inference frame now).2.1.source = .Local := by
  unfold process_local_inference
  dsimp only
  split <;> rfl

/-- A result of local inference names its model or its error, so it is not the
buffered one. -/
theorem process_local_inference_ne_buffered (t : UInt64) :
    (self.process_local_inference frame now).2.1 ≠ buffered_result t := by
  intro h
  have hm := congrArg InferenceResult.metadata h
  unfold process_local_inference at hm
  dsimp only at hm
  split at hm <;> simp [buffered_result] at hm

/-- `process_frame` moves no field the mode depends on. -/
theorem process_frame_mode_quality :
    (self.process_frame frame now).1.mode = self.mode ∧
      (self.process_frame frame now).1.network_quality = self.network_quality := by
  unfold process_frame
  dsimp only
  rw [buffer_frame_mode]
  split
  · exact ⟨rfl, rfl⟩
  · split <;> exact ⟨rfl, rfl⟩
  · exact ⟨rfl, rfl⟩
  · exact ⟨rfl, rfl⟩

/-- In every mode `process_frame` stores the numbered frame, and touches the buffer
in no other way. -/
theorem process_frame_context_buffer :
    (self.process_frame frame now).1.context_buffer
      = self.context_buffer.push (self.numbered frame) := by
  unfold process_frame
  dsimp only
  rw [buffer_frame_mode]
  split
  · rfl
  · split <;> rfl
  · rfl
  · rfl

end Frame

/-! ## Mode coherence

The mode is only written by `transition_mode`, and that is only called with the mode the new
report asks for. So the mode and the quality change together: `step_coherent` is the step and
`reachable_coherent` the run. Of the `match` in `process_frame` this leaves two arms,
`process_frame_eq`; the fallback of the `Degraded` arm and the `BUFFERED` answer are dead code. -/

/-- The mode is the one the stored quality asks for. -/
def Coherent (self : EdgeAgent) : Prop := self.mode = self.determine_mode

/-- The mode a quality asks for. -/
theorem determine_mode_congr {a b : EdgeAgent} (h : a.network_quality = b.network_quality) :
    a.determine_mode = b.determine_mode := by
  rw [determine_mode, determine_mode, h]

theorem determine_mode_ne_transitioning (self : EdgeAgent) :
    self.determine_mode ≠ .Transitioning := by
  unfold determine_mode
  split
  · decide
  · split <;> decide

theorem determine_mode_eq_offline (self : EdgeAgent) :
    self.determine_mode = .Offline ↔ self.network_quality.is_offline = true := by
  unfold determine_mode
  split
  · rename_i h
    simp [h]
  · rename_i h
    split <;> simp [h]

/-- Only a good link asks for `Online`. -/
theorem determine_mode_eq_online {self : EdgeAgent} (h : self.determine_mode = .Online) :
    self.network_quality.is_offline = false ∧ self.network_quality.is_degraded = false := by
  unfold determine_mode at h
  split at h
  · cases h
  · rename_i hoffline
    split at h
    · cases h
    · rename_i hdegraded
      exact ⟨Bool.eq_false_iff.mpr hoffline, Bool.eq_false_iff.mpr hdegraded⟩

/-- A coherent agent is `Offline` exactly when its quality is. -/
theorem Coherent.mode_eq_offline {self : EdgeAgent} (h : self.Coherent) :
    self.mode = .Offline ↔ self.network_quality.is_offline = true := by
  rw [h]
  exact determine_mode_eq_offline self

/-- `transition_mode` ends in the mode it was asked for and keeps the quality. -/
theorem transition_mode_spec (self : EdgeAgent) (new_mode : AgentMode) :
    (self.transition_mode new_mode).1.mode = new_mode ∧
      (self.transition_mode new_mode).1.network_quality = self.network_quality ∧
      (self.transition_mode new_mode).1.context_buffer
        = if new_mode = .Online then self.context_buffer.clear else self.context_buffer := by
  cases new_mode <;> exact ⟨rfl, rfl, rfl⟩

/-- `update_network_quality` stores the report and ends in the mode it asks for.
The buffer is cleared exactly when that mode is `Online` and the agent was not. -/
theorem update_network_quality_spec (self : EdgeAgent) (quality : NetworkQuality) :
    (self.update_network_quality quality).1.network_quality = quality ∧
      (self.update_network_quality quality).1.Coherent ∧
      (self.update_network_quality quality).1.context_buffer
        = if (self.update_network_quality quality).1.mode = .Online ∧ self.mode ≠ .Online then
            self.context_buffer.clear
          else self.context_buffer := by
  unfold update_network_quality
  dsimp only
  set s : EdgeAgent := { self with network_quality := quality } with hs
  by_cases h : s.determine_mode ≠ self.mode
  · rw [if_pos h]
    obtain ⟨hm, hq, hb⟩ := transition_mode_spec s s.determine_mode
    have hcoh : (s.transition_mode s.determine_mode).1.Coherent := by
      rw [Coherent, hm]
      exact determine_mode_congr hq.symm
    -- the buffer: cleared by the `Online` arm of the transition, and by no other
    refine ⟨hq, hcoh, ?_⟩
    rw [hb, hm]
    by_cases ho : s.determine_mode = .Online
    · -- the mode changed, so the agent was not `Online` before
      have hne : self.mode ≠ .Online := by
        intro hc
        exact h (ho.trans hc.symm)
      rw [if_pos ho, if_pos ⟨ho, hne⟩]
    · rw [if_neg ho, if_neg (fun hc => ho hc.1)]
  · rw [if_neg h]
    have hm : s.determine_mode = self.mode := not_not.mp h
    refine ⟨rfl, hm.symm, ?_⟩
    have hn : ¬(s.mode = .Online ∧ self.mode ≠ .Online) := fun hc => hc.2 hc.1
    rw [if_neg hn]

/-- The last quality report of a run, newest call first. -/
def last_report : List LogEntry → NetworkQuality
  | [] => initial_quality
  | e :: older =>
    match e.input with
    | .update_network_quality quality => quality
    | _ => last_report older

/-- Every call keeps the mode coherent and the stored quality the last report. -/
theorem step_coherent (self : EdgeAgent) (log : List LogEntry) (call : AgentCall)
    (h : self.Coherent ∧ self.network_quality = last_report log) :
    (self.step call).1.Coherent ∧
      (self.step call).1.network_quality = last_report (entry step self call :: log) := by
  obtain ⟨hc, hq⟩ := h
  cases call with
  | update_network_quality quality =>
      obtain ⟨h1, h2, -⟩ := update_network_quality_spec self quality
      exact ⟨h2, h1⟩
  | process_frame frame now =>
      -- neither side of the equation moves
      obtain ⟨h1, h2⟩ := process_frame_mode_quality self frame now
      refine ⟨?_, h2.trans hq⟩
      show (self.process_frame frame now).1.mode = _
      rw [h1, hc]
      exact determine_mode_congr h2.symm
  | probe_network_quality draws now => exact ⟨hc, hq⟩
  | set_local_backend backend => exact ⟨hc, hq⟩
  | set_mode_change_callback callback => exact ⟨hc, hq⟩

theorem initial_quality_good :
    initial_quality.is_offline = false ∧ initial_quality.is_degraded = false := by
  decide +kernel

/-- A fresh agent is coherent: a quality of all zeros is not degraded. -/
theorem new_coherent (probe_interval_secs : ℕ) : (new probe_interval_secs).Coherent := by
  show AgentMode.Online = determine_mode _
  unfold determine_mode
  rw [if_neg (by simp [new, initial_quality_good]), if_neg (by simp [new, initial_quality_good])]

/-- In every state of every run the mode is the one the stored quality asks for, and
the stored quality is the last report. -/
theorem reachable_coherent (probe_interval_secs : ℕ) (calls : List AgentCall) :
    (run probe_interval_secs calls).1.Coherent ∧
      (run probe_interval_secs calls).1.network_quality
        = last_report (run probe_interval_secs calls).2 :=
  exec_induction step (I := fun s log => s.Coherent ∧ s.network_quality = last_report log)
    ⟨new_coherent probe_interval_secs, rfl⟩ step_coherent calls

/-- A coherent agent in `Degraded` mode reaches the cloud. -/
theorem Coherent.can_reach_cloud {self : EdgeAgent} (h : self.Coherent)
    (hd : self.mode = .Degraded) : self.can_reach_cloud = true := by
  have hoff : ¬ self.network_quality.is_offline = true := by
    rw [← h.mode_eq_offline, hd]
    decide
  simp [EdgeAgent.can_reach_cloud, hoff]

/-- What a coherent agent answers: it offloads unless its quality is offline, and
then it infers locally. -/
theorem Coherent.process_frame_eq {self : EdgeAgent} (h : self.Coherent)
    (frame : TelemetryFrame) (now : UInt64) :
    self.process_frame frame now
      = if self.network_quality.is_offline then
          (self.buffer_frame frame).count_local.process_local_inference (self.numbered frame) now
        else ((self.buffer_frame frame).count_cloud,
          process_cloud_offload (self.numbered frame) now) := by
  have hoff := h.mode_eq_offline
  have hnt : self.mode ≠ .Transitioning := by
    rw [h]
    exact determine_mode_ne_transitioning self
  unfold process_frame
  dsimp only
  rw [buffer_frame_mode]
  cases hm : self.mode with
  | Online =>
      have hq : ¬ self.network_quality.is_offline = true := by
        rw [← hoff, hm]
        decide
      rw [if_neg hq]
  | Degraded =>
      -- the fallback of this arm would need an offline quality, which is `Offline` mode
      have hq : ¬ self.network_quality.is_offline = true := by
        rw [← hoff, hm]
        decide
      have hr : (self.buffer_frame frame).can_reach_cloud = true := h.can_reach_cloud hm
      rw [if_pos hr, if_neg hq]
  | Offline => rw [if_pos (hoff.mp hm)]
  | Transitioning => exact absurd hm hnt

/-- **Mode coherence.** In every state of every run the mode is the one the stored
quality asks for, so it is never `Transitioning`, `process_frame` never buffers, it
answers from the cloud exactly when the last report is not offline, and the local
fallback of the `Degraded` arm is never taken. -/
theorem mode_coherence (probe_interval_secs : ℕ) (calls : List AgentCall) :
    let r := run probe_interval_secs calls
    r.1.mode = r.1.determine_mode ∧ r.1.mode ≠ .Transitioning ∧
      (r.1.mode = .Degraded → ∀ frame, (r.1.buffer_frame frame).can_reach_cloud = true) ∧
      ∀ frame now,
        (∀ t, (r.1.process_frame frame now).2.1 ≠ buffered_result t) ∧
        ((r.1.process_frame frame now).2.1.source = .Cloud ↔
          (last_report r.2).is_offline = false) := by
  intro r
  obtain ⟨hc, hq⟩ := reachable_coherent probe_interval_secs calls
  refine ⟨hc, ?_, fun hd frame => hc.can_reach_cloud hd, ?_⟩
  · rw [hc]
    exact determine_mode_ne_transitioning _
  · intro frame now
    rw [hc.process_frame_eq frame now, ← hq]
    -- the last report decides, through `process_frame_eq`
    cases ho : r.1.network_quality.is_offline with
    | true =>
        rw [if_pos rfl]
        refine ⟨fun t => process_local_inference_ne_buffered _ _ _ t, ?_⟩
        rw [process_local_inference_source]
        exact iff_of_false (by decide) (by decide)
    | false =>
        rw [if_neg (by decide)]
        refine ⟨fun t h => ?_, iff_of_true rfl rfl⟩
        have hs : InferenceSource.Cloud = .Local := congrArg InferenceResult.source h
        exact absurd hs (by decide)

end EdgeAgent

end SovereignEdgeTee
