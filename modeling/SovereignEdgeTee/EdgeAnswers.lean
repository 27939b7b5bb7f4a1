/-
What an agent answers, over whole runs, and what its local backend is asked.

Between a report and a frame there may be any calls, and a backend may answer differently each
time it is asked. `reply_of` says what a frame is answered without the agent: by the last
report, the backend installed last and the prompts that backend was given before. `Answering`
is the invariant that carries it.

The second half installs `LlamaCppBackend`s. The loop of `infer` keeps to its limits on every
call, so every local result of a run does.
-/
import SovereignEdgeTee.EdgeAccounting
import SovereignEdgeTee.EdgeBuffer
import SovereignEdgeTee.LlamaLimits

set_option autoImplicit false

namespace SovereignEdgeTee

open Mealy

namespace EdgeAgent

/-! ## The answer the history asks for

A second reading of `process_frame` that knows no agent. It looks the last report, the backend
and that backend's prompts up in the log, and the number of the frame is its place among the
frames processed. `local_result` is the `match` on the backend's answer with its strings and
confidences as the source has them. -/

/-- The backend installed last. -/
def last_backend : List LogEntry → InferenceBackend
  | [] => SimulatedBackend
  | e :: older =>
    match e.input with
    | .set_local_backend backend => backend
    | _ => last_backend older

/-- What that backend has been asked, newest first. It is asked the frames that come while the
last report is offline. -/
def asked : List LogEntry → List (String × ℕ)
  | [] => []
  | e :: older =>
    match e.input with
    | .set_local_backend backend => backend.calls
    | .process_frame frame _ =>
      if (last_report older).is_offline then (local_prompt frame, 32) :: asked older
      else asked older
    | _ => asked older

/-- The result for what a backend of this name answered. -/
def local_result (answer : Except AgentError InferenceOutput) (backend : String) (now : UInt64) :
    InferenceResult :=
  match answer with
  | .ok output =>
    { action := Utf8.trim output.text
      confidence := 0x3F400000 -- 0.75
      metadata := [("model", output.model_name), ("backend", backend),
        ("tokens", toString output.tokens_generated)]
      timestamp := now
      source := .Local }
  | .error e =>
    { action := "INFERENCE_ERROR"
      confidence := 0 -- 0.0
      metadata := [("error", e.to_string)]
      timestamp := now
      source := .Local }

/-- What the backend answers to a frame after the calls of `older`. -/
def local_answer (older : List LogEntry) (frame : TelemetryFrame) :
    Except AgentError InferenceOutput :=
  (last_backend older).infer_after (asked older) (local_prompt frame) 32

/-- What a frame is answered, and what is done with it, after the calls of `older`. -/
def reply_of (older : List LogEntry) (frame : TelemetryFrame) (now : UInt64) : AgentReply :=
  let stored := { frame with frame_id := UInt64.ofNat (process_calls older + 1) }
  if (last_report older).is_offline then
    let backend := (last_backend older).name_after ((local_prompt frame, 32) :: asked older)
    ⟨some (local_result (local_answer older frame) backend now), none,
      [.local_inference (local_prompt frame) 32]⟩
  else ⟨some (process_cloud_offload stored now).1, none, [.cloud_offload stored]⟩

/-- A frame is answered as the history asks. -/
def RepliedFrom (older : List LogEntry) (e : LogEntry) : Prop :=
  ∀ frame now, e.input = .process_frame frame now → e.output = reply_of older frame now

/-! ## The invariant

`Answering` has one field for each thing the answer depends on. Coherence turns the agent's mode
into the last report, and then `local_frame` and `cloud_frame` are the two arms that are left.
The backend's own state is its list of calls, which is `asked`. -/

/-- The mode, the number of the last frame and the backend are as the history has them. -/
structure Answering (agent : EdgeAgent) (log : List LogEntry) : Prop where
  coherent : agent.Coherent
  reported : agent.network_quality = last_report log
  frame_counter : agent.frame_counter = UInt64.ofNat (process_calls log)
  local_backend : agent.local_backend = { last_backend log with calls := asked log }

/-- Local inference asks the backend, and makes a result of what it answers. -/
theorem process_local_inference_eq (self : EdgeAgent) (frame : TelemetryFrame) (now : UInt64) :
    self.process_local_inference frame now =
      ({ self with local_backend := (self.local_backend.infer (local_prompt frame) 32).2 },
        local_result (self.local_backend.infer (local_prompt frame) 32).1
          (self.local_backend.infer (local_prompt frame) 32).2.name now,
        [.local_inference (local_prompt frame) 32]) := by
  unfold process_local_inference local_result
  rfl

theorem update_network_quality_local_backend (self : EdgeAgent) (quality : NetworkQuality) :
    (self.update_network_quality quality).1.local_backend = self.local_backend := by
  rw [update_network_quality]
  dsimp only
  split
  · generalize EdgeAgent.determine_mode _ = new_mode
    cases new_mode <;> rfl
  · rfl

namespace Answering

variable {agent : EdgeAgent} {log : List LogEntry}

theorem numbered_eq (h : Answering agent log) (frame : TelemetryFrame) :
    agent.numbered frame = { frame with frame_id := UInt64.ofNat (process_calls log + 1) } := by
  rw [numbered, h.frame_counter, UInt64.ofNat_add]
  rfl

/-- What the backend answers and what it is left as. -/
theorem infer_eq (h : Answering agent log) (frame : TelemetryFrame) :
    agent.local_backend.infer (local_prompt frame) 32 =
      (local_answer log frame,
        { last_backend log with calls := (local_prompt frame, 32) :: asked log }) := by
  rw [InferenceBackend.infer, h.local_backend]
  rfl

/-- A frame that comes while the last report is offline. -/
theorem local_frame (h : Answering agent log) (hoffline : (last_report log).is_offline = true)
    (frame : TelemetryFrame) (now : UInt64) :
    (agent.process_frame frame now).1.local_backend =
        { last_backend log with calls := (local_prompt frame, 32) :: asked log } ∧
      (entry step agent (.process_frame frame now)).output = reply_of log frame now := by
  have hquality : agent.network_quality.is_offline = true := by rw [h.reported, hoffline]
  have hbackend : (agent.buffer_frame frame).count_local.local_backend = agent.local_backend := rfl
  have hprompt : local_prompt (agent.numbered frame) = local_prompt frame := rfl
  have hprocess := h.coherent.process_frame_eq frame now
  -- the backend is asked the text of the frame, in which its number is not
  rw [if_pos hquality, process_local_inference_eq, hbackend, hprompt, h.infer_eq] at hprocess
  refine ⟨congrArg (fun r => r.1.local_backend) hprocess, ?_⟩
  rw [entry, step, hprocess, reply_of, if_pos hoffline]
  rfl

/-- A frame that comes while the last report is not. -/
theorem cloud_frame (h : Answering agent log) (honline : (last_report log).is_offline = false)
    (frame : TelemetryFrame) (now : UInt64) :
    (agent.process_frame frame now).1.local_backend = agent.local_backend ∧
      (entry step agent (.process_frame frame now)).output = reply_of log frame now := by
  have hquality : ¬ agent.network_quality.is_offline = true := by
    rw [h.reported, honline]
    decide
  have hprocess := h.coherent.process_frame_eq frame now
  rw [if_neg hquality, h.numbered_eq] at hprocess
  refine ⟨congrArg (fun r => r.1.local_backend) hprocess, ?_⟩
  rw [entry, step, hprocess, reply_of, if_neg (by rw [honline]; decide)]
  rfl

/-- A frame is answered as the history asks. -/
theorem replied (h : Answering agent log) (call : AgentCall) :
    RepliedFrom log (entry step agent call) := by
  intro frame now hinput
  have hcall : call = .process_frame frame now := hinput
  rw [hcall]
  cases hoffline : (last_report log).is_offline with
  | true => exact (h.local_frame hoffline frame now).2
  | false => exact (h.cloud_frame hoffline frame now).2

/-- The backend is asked a frame if the last report is offline. -/
theorem asked_frame (agent : EdgeAgent) (log : List LogEntry) (frame : TelemetryFrame)
    (now : UInt64) :
    asked (entry step agent (.process_frame frame now) :: log) =
      if (last_report log).is_offline then (local_prompt frame, 32) :: asked log
      else asked log := rfl

/-- A frame is counted, and the backend is asked it if the last report is offline. -/
theorem frame (h : Answering agent log) (frame : TelemetryFrame) (now : UInt64) :
    Answering (agent.process_frame frame now).1
      (entry step agent (.process_frame frame now) :: log) := by
  obtain ⟨hcoherent, hreported⟩ :=
    step_coherent agent log (.process_frame frame now) ⟨h.coherent, h.reported⟩
  have hcalls : process_calls (entry step agent (.process_frame frame now) :: log) =
      process_calls log + 1 := List.countP_cons_of_pos rfl
  refine ⟨hcoherent, hreported, ?_, ?_⟩
  · rw [process_frame_frame_counter, h.frame_counter, hcalls, UInt64.ofNat_add]
    rfl
  · have hbackend : last_backend (entry step agent (.process_frame frame now) :: log) =
        last_backend log := rfl
    rw [hbackend, asked_frame]
    cases hoffline : (last_report log).is_offline with
    | true =>
        rw [if_pos rfl]
        exact (h.local_frame hoffline frame now).1
    | false =>
        rw [if_neg Bool.false_ne_true, (h.cloud_frame hoffline frame now).1]
        exact h.local_backend

end Answering

theorem answering_new (probe_interval_secs : ℕ) : Answering (new probe_interval_secs) [] :=
  ⟨new_coherent probe_interval_secs, rfl, rfl, rfl⟩

theorem answering_step (agent : EdgeAgent) (log : List LogEntry) (call : AgentCall)
    (h : Answering agent log) :
    Answering (agent.step call).1 (entry step agent call :: log) := by
  obtain ⟨hcoherent, hreported⟩ := step_coherent agent log call ⟨h.coherent, h.reported⟩
  cases call with
  | update_network_quality quality =>
      refine ⟨hcoherent, hreported, ?_, ?_⟩
      · exact (agent.update_network_quality_frame_counter quality).trans h.frame_counter
      · exact (agent.update_network_quality_local_backend quality).trans h.local_backend
  | process_frame frame now => exact h.frame frame now
  | probe_network_quality draws now =>
      exact ⟨hcoherent, hreported, h.frame_counter, h.local_backend⟩
  | set_local_backend backend => exact ⟨hcoherent, hreported, h.frame_counter, rfl⟩
  | set_mode_change_callback callback =>
      exact ⟨hcoherent, hreported, h.frame_counter, h.local_backend⟩

/-- **What an agent answers.** In every run each frame is answered, and handed on, as the calls
before it ask: to the cloud under its number, unless the last report is offline; and then by
the backend installed last, which is asked this frame's text after every prompt it was given
before, in their order. -/
theorem agent_answers (probe_interval_secs : ℕ) (calls : List AgentCall) :
    Guarded RepliedFrom (run probe_interval_secs calls).2 :=
  exec_guarded step (answering_new probe_interval_secs) answering_step
    (fun _ _ call h => h.replied call) calls

/-! ## With a local model

A backend that was loaded meets another model in each call, as far as the agent can tell. What
`infer_traced_within` says of one call it says of every model, so it says it of each of them,
whatever the calls before did. -/

/-- A backend that runs what was loaded, and makes a token of every prompt at least. It may have
been called before it was installed. -/
def RunsModel (backend : InferenceBackend) : Prop :=
  ∃ (loaded : LoadedBackend) (calls : List (String × ℕ)), backend = loaded.boxed calls ∧
    ∀ calls prompt, (loaded.model_after calls).str_to_token prompt ≠ .ok []

/-- An answer, after those calls, within the limits of the call: 32 tokens, and for a model the
prompt and those tokens together within its context. -/
structure KeptLimits (backend : InferenceBackend) (calls : List (String × ℕ)) (prompt : String)
    (output : InferenceOutput) : Prop where
  generated_le : output.tokens_generated ≤ 32
  room : backend = SimulatedBackend ∨
    ∃ (loaded : LoadedBackend) (before : List (String × ℕ))
      (tokens : List (loaded.model_after calls).Token),
      backend = loaded.boxed before ∧
        (loaded.model_after calls).str_to_token prompt = .ok tokens ∧
        tokens.length + output.tokens_generated ≤ CTX_SIZE.toNat

/-- A local result reports an error, or an answer within the limits. -/
def LocalWithin (older : List LogEntry) (e : LogEntry) : Prop :=
  ∀ frame now result, e.input = .process_frame frame now → e.output.result = some result →
    result.source = .Local →
      ∃ answer backend, result = local_result answer backend now ∧
        ∀ output, answer = .ok output →
          KeptLimits (last_backend older) (asked older) (local_prompt frame) output

/-- The step installs nothing but models. -/
def InstallsModel (_older : List LogEntry) (e : LogEntry) : Prop :=
  ∀ backend, e.input = .set_local_backend backend → RunsModel backend

/-- The backend is the first one, or a model. -/
theorem last_backend_cases {log : List LogEntry} (h : Guarded InstallsModel log) :
    last_backend log = SimulatedBackend ∨ RunsModel (last_backend log) := by
  induction log with
  | nil => exact Or.inl rfl
  | cons e older ih =>
      rw [last_backend]
      split
      · rename_i backend hinput
        exact Or.inr (h.1 backend hinput)
      · exact ih h.2

/-- What such a backend answers is within the limits. -/
theorem local_answer_within {log : List LogEntry} (h : Guarded InstallsModel log)
    {frame : TelemetryFrame} {output : InferenceOutput}
    (houtput : local_answer log frame = .ok output) :
    KeptLimits (last_backend log) (asked log) (local_prompt frame) output := by
  rw [local_answer] at houtput
  rcases last_backend_cases h with hsimulated | ⟨loaded, before, hloaded, htokens⟩
  · -- the simulated backend generates no tokens
    rw [hsimulated] at houtput
    obtain rfl := Except.ok.inj houtput
    exact ⟨by decide, Or.inl hsimulated⟩
  · -- the call meets the model that the calls so far have left
    rw [hloaded] at houtput
    obtain ⟨⟨output', events⟩, htraced, hinfer⟩ := LlamaModel.bind_ok houtput
    obtain rfl := Except.ok.inj hinfer
    obtain ⟨tokens, htokens, hwithin⟩ :=
      LlamaCppBackend.infer_traced_within (htokens (asked log) (local_prompt frame)) htraced
    exact ⟨hwithin.generated_le,
      Or.inr ⟨loaded, before, tokens, hloaded, htokens, hwithin.room⟩⟩

/-- A frame that was answered as the history asks, locally, was answered within the limits. -/
theorem RepliedFrom.within {older : List LogEntry} {e : LogEntry} (h : RepliedFrom older e)
    (hinstalls : Guarded InstallsModel older) : LocalWithin older e := by
  intro frame now result hinput hresult hsource
  rw [h frame now hinput, reply_of] at hresult
  by_cases hoffline : (last_report older).is_offline = true
  · rw [if_pos hoffline] at hresult
    obtain rfl := Option.some.inj hresult
    exact ⟨_, _, rfl, fun output houtput => local_answer_within hinstalls houtput⟩
  · rw [if_neg hoffline] at hresult
    obtain rfl := Option.some.inj hresult
    cases hsource

end EdgeAgent

end SovereignEdgeTee
