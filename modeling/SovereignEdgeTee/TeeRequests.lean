/-
What a gateway asks the network and what it answers, over whole runs.

A gateway has eight fields, and most of what a call reads was written by other calls.
`answer_of` says what a frame is answered without them: from what the gateway was made with,
the calls so far and the outcome of one request. That request goes to the endpoint and carries
the token of the last `initialize` that succeeded; what the network would answer to any other
request makes no difference. `Configured` is the invariant: every field that an answer reads is
a function of the start and the history.
-/
import SovereignEdgeTee.TeeAccounting

set_option autoImplicit false

namespace SovereignEdgeTee

open Mealy

variable {T : Type}

/-! ## The answer the history asks for

A second reading of the gateway: the key is the token of the last `initialize` that completed,
the number of the answer is the place of the frame, and everything else comes with the call.
No state of a gateway is looked at. -/

/-- The token of the last `initialize` of a log that returned `Ok`. -/
def last_token : List (GatewayEntry T) → Option (List UInt8)
  | [] => none
  | e :: older =>
    match e.input, e.output with
    | .initialize_with api_token, .initialized (.ok ()) => some api_token
    | _, _ => last_token older

/-- The prompt for a frame. -/
def frame_prompt (frame : TelemetryFrame) : String :=
  SYSTEM_PROMPT ++ "\n\n" ++
    ("Telemetry Frame #" ++ toString frame.frame_id ++ " from " ++ frame.source_ip ++ "\nData: " ++
      Utf8.from_utf8_lossy frame.payload ++ "\n\nAnalyze and provide decision:")

/-- The one request for a frame. -/
def chat_request (qwen_endpoint model : String) (api_token : List UInt8)
    (frame : TelemetryFrame) : HttpRequest where
  url := trim_end_matches qwen_endpoint '/' ++ "/chat/completions"
  bearer_auth := Utf8.from_utf8_lossy api_token
  json := .object [("model", .string model),
    ("messages", .array
      [.object [("role", .string "user"), ("content", .string (frame_prompt frame))]])]

/-- The answer of the offline demo to the `n`-th frame. -/
def canned_response (model : String) (n : ℕ) (frame : TelemetryFrame) : QwenResponse where
  request_id := "tee-req-" ++ toString (UInt64.ofNat n)
  model := model
  choices := [⟨0, ⟨"assistant", canned_content⟩, "stop"⟩]
  usage :=
    { prompt_tokens := (frame_prompt frame).utf8ByteSize / 4
      completion_tokens := 50
      total_tokens := (frame_prompt frame).utf8ByteSize / 4 + 50 }

/-- What a gateway that was made as `start` answers a frame after the calls of `older`. -/
def answer_of (D : Dependencies) (start : TeeGateway T) (older : List (GatewayEntry T))
    (frame : TelemetryFrame) (send : HttpRequest → HttpOutcome) :
    Except GatewayError QwenResponse :=
  match last_token older with
  | none => .error .ApiKeyNotInitialized
  | some api_token =>
    if start.live then
      start.receive D (send (chat_request start.qwen_endpoint start.qwen_model api_token frame))
    else .ok (canned_response start.qwen_model ((frame_sources older).length + 1) frame)

/-- A frame is answered as the history asks. -/
def AnsweredFrom (D : Dependencies) (start : TeeGateway T) (older : List (GatewayEntry T))
    (e : GatewayEntry T) : Prop :=
  ∀ frame now send, e.input = .process_frame frame now send →
    e.output = .processed (answer_of D start older frame send)

/-! ## The invariant

`Configured` says that the gateway's fields are what the history has them to be. The endpoint
and the model are those it was built with, and the client is there as soon as the key is. -/

/-- Every field that an answer reads is as the start and the history have it. -/
structure Configured (start gateway : TeeGateway T) (log : List (GatewayEntry T)) : Prop where
  qwen_endpoint : gateway.qwen_endpoint = start.qwen_endpoint
  qwen_model : gateway.qwen_model = start.qwen_model
  live : gateway.live = start.live
  qwen_api_key : gateway.qwen_api_key = (last_token log).map Utf8.from_utf8_lossy
  http_client : gateway.http_client = (last_token log).map fun _ => ⟨⟩
  attested : (last_token log).isSome = true → gateway.storage.attested = true
  processed : gateway.processed_frames = UInt64.ofNat (frame_sources log).length

namespace Configured

variable {start gateway after : TeeGateway T} {log : List (GatewayEntry T)} {e : GatewayEntry T}

/-- A gateway counts as initialized as soon as there was a token, and for good. -/
theorem is_initialized (h : Configured start gateway log) :
    gateway.is_initialized = (last_token log).isSome := by
  rw [TeeGateway.is_initialized, h.qwen_api_key, Option.isSome_map]
  -- with a token there was an attestation, so the two conditions are one
  cases htoken : last_token log with
  | none => rfl
  | some api_token =>
      have hattested := h.attested (by rw [htoken]; rfl)
      rw [SealedStorage.is_attested, hattested]
      rfl

/-- The model is read for its default name alone. -/
theorem receive_eq (h : Configured start gateway log) (D : Dependencies) (outcome : HttpOutcome) :
    gateway.receive D outcome = start.receive D outcome := by
  have hresponse : gateway.response_of = start.response_of := by
    funext v
    unfold TeeGateway.response_of
    rw [h.qwen_model]
  rcases outcome with error | ⟨status, error | text⟩
  · rfl
  · rfl
  · rw [TeeGateway.receive, TeeGateway.receive, hresponse]

/-- A live call asks the endpoint of the start, for the model of the start. -/
theorem request_eq (h : Configured start gateway log) (api_token : List UInt8)
    (frame : TelemetryFrame) (now : ℕ) :
    (gateway.count_frame frame now).request (Utf8.from_utf8_lossy api_token) (frame_prompt frame) =
      chat_request start.qwen_endpoint start.qwen_model api_token frame := by
  rw [chat_request, ← h.qwen_endpoint, ← h.qwen_model]
  rfl

theorem answer (h : Configured start gateway log) (D : Dependencies) (frame : TelemetryFrame)
    (now : ℕ) (send : HttpRequest → HttpOutcome) :
    (gateway.process_frame D frame now send).1 = answer_of D start log frame send := by
  have hprocess : (gateway.process_frame D frame now send).1 =
      (gateway.count_frame frame now).call_qwen_api D (frame_prompt frame) send := rfl
  have hkey : (gateway.count_frame frame now).qwen_api_key = gateway.qwen_api_key := rfl
  have hclient : (gateway.count_frame frame now).http_client = gateway.http_client := rfl
  have hlive : (gateway.count_frame frame now).live = gateway.live := rfl
  rw [hprocess, TeeGateway.call_qwen_api, answer_of, hkey, hclient, hlive, h.qwen_api_key,
    h.http_client, h.live]
  cases last_token log with
  | none => rfl
  | some api_token =>
      dsimp only [Option.map_some]
      by_cases hstart : start.live = true
      · -- the client came with the key
        have hreceive : (gateway.count_frame frame now).receive D = gateway.receive D := rfl
        rw [if_pos hstart, if_pos hstart, h.request_eq, hreceive, h.receive_eq]
      · -- the demo answer is numbered with this frame, which has been counted
        have hcount : (gateway.count_frame frame now).processed_frames =
            UInt64.ofNat ((frame_sources log).length + 1) := by
          rw [UInt64.ofNat_add, ← h.processed]
          rfl
        have hmodel : (gateway.count_frame frame now).qwen_model = start.qwen_model :=
          h.qwen_model
        rw [if_neg hstart, if_neg hstart, TeeGateway.simulated_response, canned_response, hcount,
          hmodel]

/-! ## Steps

An `initialize` that completes, one that fails, and a frame: each keeps the invariant, and the
answer of a frame is read off it. -/

/-- An `initialize` that completes. -/
theorem completed (h : Configured start gateway log) {api_token sealed_data : List UInt8} {tee : T}
    (hinput : e.input = .initialize_with api_token) (houtput : e.output = .initialized (.ok ()))
    (hafter : after = { gateway with
      storage := ⟨tee, sealed_data, true⟩
      qwen_api_key := some (Utf8.from_utf8_lossy api_token)
      http_client := some ⟨⟩ }) : Configured start after (e :: log) := by
  have htoken : last_token (e :: log) = some api_token := by
    rw [last_token, hinput, houtput]
  have hsources : frame_sources (e :: log) = frame_sources log :=
    List.filterMap_cons_none (by rw [hinput]; rfl)
  rw [hafter]
  refine ⟨h.qwen_endpoint, h.qwen_model, h.live, ?_, ?_, fun _ => rfl, ?_⟩
  · rw [htoken, Option.map_some]
  · rw [htoken, Option.map_some]
  · rw [hsources]
    exact h.processed

/-- An `initialize` that fails may set the flag, and nothing else that an answer reads. -/
theorem failed (h : Configured start gateway log) {api_token : List UInt8} {error : GatewayError}
    {tee : T} {attested : Bool} (hinput : e.input = .initialize_with api_token)
    (houtput : e.output = .initialized (.error error))
    (hflag : gateway.storage.attested = true → attested = true)
    (hafter : after
      = { gateway with storage := ⟨tee, gateway.storage.sealed_data, attested⟩ }) :
    Configured start after (e :: log) := by
  have htoken : last_token (e :: log) = last_token log := by
    rw [last_token, hinput, houtput]
  have hsources : frame_sources (e :: log) = frame_sources log :=
    List.filterMap_cons_none (by rw [hinput]; rfl)
  rw [hafter]
  refine ⟨h.qwen_endpoint, h.qwen_model, h.live, ?_, ?_, ?_, ?_⟩
  · rw [htoken]
    exact h.qwen_api_key
  · rw [htoken]
    exact h.http_client
  · rw [htoken]
    exact fun hsome => hflag (h.attested hsome)
  · rw [hsources]
    exact h.processed

/-- A frame is counted, and is no `initialize`. -/
theorem counted (h : Configured start gateway log) {frame : TelemetryFrame} {now : ℕ}
    {send : HttpRequest → HttpOutcome} (hinput : e.input = .process_frame frame now send) :
    Configured start (gateway.count_frame frame now) (e :: log) := by
  have htoken : last_token (e :: log) = last_token log := by
    rw [last_token, hinput]
  have hsources : frame_sources (e :: log) = frame.source_ip :: frame_sources log :=
    List.filterMap_cons_some (by rw [hinput]; rfl)
  refine ⟨h.qwen_endpoint, h.qwen_model, h.live, ?_, ?_, ?_, ?_⟩
  · rw [htoken]
    exact h.qwen_api_key
  · rw [htoken]
    exact h.http_client
  · rw [htoken]
    exact h.attested
  · rw [hsources, List.length_cons, UInt64.ofNat_add, ← h.processed]
    rfl

end Configured

theorem start_configured (tee : T) (qwen_endpoint : String) (live_model : Option String) :
    Configured (TeeGateway.start tee qwen_endpoint live_model)
      (TeeGateway.start tee qwen_endpoint live_model) [] := by
  cases live_model with
  | none => exact ⟨rfl, rfl, rfl, rfl, rfl, fun h => absurd h Bool.false_ne_true, rfl⟩
  | some model => exact ⟨rfl, rfl, rfl, rfl, rfl, fun h => absurd h Bool.false_ne_true, rfl⟩

section Runs

variable [TeeBackend T]

theorem configured_step (D : Dependencies) {start : TeeGateway T} (gateway : TeeGateway T)
    (log : List (GatewayEntry T)) (call : GatewayCall) (h : Configured start gateway log) :
    Configured start (gateway.step D call).1 (entry (TeeGateway.step D) gateway call :: log) := by
  cases call with
  | initialize_with api_token =>
      rcases gateway.initialize_cases api_token with
        ⟨report, sealed_data, tee, -, -, hinit⟩ | ⟨e, tee, attested, hflag, hinit⟩
      · have houtput : (entry (TeeGateway.step D) gateway (.initialize_with api_token)).output
            = .initialized (.ok ()) := congrArg GatewayReply.initialized (congrArg Prod.fst hinit)
        exact h.completed rfl houtput (congrArg Prod.snd hinit)
      · have houtput : (entry (TeeGateway.step D) gateway (.initialize_with api_token)).output
            = .initialized (.error e) := congrArg GatewayReply.initialized (congrArg Prod.fst hinit)
        exact h.failed rfl houtput hflag (congrArg Prod.snd hinit)
  | process_frame frame now send => exact h.counted rfl
  | generate_execution_log frame_id response =>
      exact ⟨h.qwen_endpoint, h.qwen_model, h.live, h.qwen_api_key, h.http_client, h.attested,
        h.processed⟩

/-- **What a gateway answers.** In every run of a new gateway, whatever the backend and the
network do, each frame is answered as the calls before it ask: with no token it is refused;
offline it gets the demo answer under its number; and live it gets what is made of the outcome
of one request, to the endpoint, with the token of the last `initialize` that succeeded and
the text of this frame. The gateway counts as initialized just when there was such a token. -/
theorem gateway_answers (D : Dependencies) (tee : T) (qwen_endpoint : String)
    (live_model : Option String) (calls : List GatewayCall) :
    let start := TeeGateway.start tee qwen_endpoint live_model
    let run := gateway_run D tee qwen_endpoint live_model calls
    Guarded (AnsweredFrom D start) run.2 ∧
      run.1.is_initialized = (last_token run.2).isSome := by
  intro start run
  have hstart := start_configured tee qwen_endpoint live_model
  refine ⟨?_, ?_⟩
  · refine exec_guarded _ hstart (configured_step D) ?_ calls
    intro gateway log call h frame now send hinput
    have hcall : call = .process_frame frame now send := hinput
    rw [hcall]
    exact congrArg GatewayReply.processed (h.answer D frame now send)
  · exact (exec_induction _ hstart (configured_step D) calls).is_initialized

end Runs

end SovereignEdgeTee
