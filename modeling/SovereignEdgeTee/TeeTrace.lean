/-
What a gateway does outside while it runs: the lines it logs and the requests it sends.

The functions of `TeeGateway` return what their caller gets. What they do besides is kept here, as
a list of `GatewayEffect` for each call, in the order of the source. The lines are those of the
crate: one in `SealedStorage::seal`, one at the end of `initialize` and two at the beginning of
`call_qwen_api`. A line of the debug level counts like the others, which of them are written is for
the subscriber to say. A backend may log as well, and that is left out; `SimulatedTee` writes one
line in an attestation, and always the same.

A request is handed to the HTTP client, which may still turn it down without the network.
`process_frame_congr` says that a call asks nothing else: networks that answer its requests alike
are not told apart by it. `Configured.sent_eq` says which requests there are, from the history
alone.
-/
import SovereignEdgeTee.TeeRequests

set_option autoImplicit false

namespace SovereignEdgeTee

open Mealy

/-! ## Effects

The calls of `TeeGateway` return what they return and no more. Here each of them gets a second
function, which says what it does outside in the order in which it does it. It reads the same
state as the call and branches as the source does, so that the two can be compared line by
line. -/

/-- A line of the log, with the values that are put into its text. -/
inductive LogLine where
  /-- How many bytes were sealed. -/
  | «sealed» (bytes : ℕ)
  /-- That the gateway is initialized. -/
  | initialized
  /-- Which endpoint is called, whether it is live, and how long the key is. -/
  | calling (qwen_endpoint : String) (live : Bool) (key_length : ℕ)
  /-- How long the prompt is. -/
  | prompt_length (chars : ℕ)
deriving DecidableEq

/-- Something that a gateway does outside. -/
inductive GatewayEffect where
  | log (line : LogLine)
  | send (request : HttpRequest)

/-- The requests among the effects. -/
def sent (effects : List GatewayEffect) : List HttpRequest :=
  effects.filterMap fun effect =>
    match effect with
    | .log _ => none
    | .send request => some request

namespace TeeGateway

variable {T : Type}

/-- What `initialize` does. It logs when the token is sealed, and at its end; no line comes before
an error. -/
def initialize_effects [TeeBackend T] (self : TeeGateway T) (api_token : List UInt8) :
    List GatewayEffect :=
  match (self.initialize_with api_token).1 with
  | .error _ => []
  | .ok () => [.log (.sealed api_token.length), .log .initialized]

/-- What `call_qwen_api` does. -/
def call_effects (self : TeeGateway T) (prompt : String) : List GatewayEffect :=
  match self.qwen_api_key with
  | none => []
  | some api_key =>
    [.log (.calling self.qwen_endpoint self.live api_key.utf8ByteSize),
      .log (.prompt_length prompt.utf8ByteSize)] ++
    if self.live then
      match self.http_client with
      | none => []
      | some _ => [.send (self.request api_key prompt)]
    else []

/-- What `process_frame` does. -/
def process_effects (self : TeeGateway T) (frame : TelemetryFrame) (now : ℕ) :
    List GatewayEffect :=
  let self := self.count_frame frame now
  match self.build_prompt frame with
  | .error _ => []
  | .ok prompt => self.call_effects prompt

/-- What a call does. -/
def effects [TeeBackend T] (self : TeeGateway T) : GatewayCall → List GatewayEffect
  | .initialize_with api_token => self.initialize_effects api_token
  | .process_frame frame now _ => self.process_effects frame now
  | .generate_execution_log _ _ => []

end TeeGateway

/-! ## Nothing else is asked

The requests of a call are all it learns from the network: the answer is a function of their
outcomes. The parameter `send` answers every request there is, so this has to be said. -/

section Asked

variable {T : Type} {gateway : TeeGateway T} {D : Dependencies}
  {send send' : HttpRequest → HttpOutcome}

theorem call_qwen_api_congr {prompt : String}
    (h : ∀ request ∈ sent (gateway.call_effects prompt), send request = send' request) :
    gateway.call_qwen_api D prompt send = gateway.call_qwen_api D prompt send' := by
  unfold TeeGateway.call_qwen_api
  unfold TeeGateway.call_effects at h
  cases hkey : gateway.qwen_api_key with
  | none => rfl
  | some api_key =>
      rw [hkey] at h
      dsimp only at h ⊢
      by_cases hlive : gateway.live = true
      · rw [if_pos hlive, if_pos hlive]
        rw [if_pos hlive] at h
        cases hclient : gateway.http_client with
        | none => rfl
        | some client =>
            rw [hclient] at h
            -- the one request of a live call that has its client
            have hsent := h (gateway.request api_key prompt) List.mem_cons_self
            dsimp only
            rw [hsent]
      · rw [if_neg hlive, if_neg hlive]

theorem process_frame_congr {frame : TelemetryFrame} {now : ℕ}
    (h : ∀ request ∈ sent (gateway.process_effects frame now), send request = send' request) :
    gateway.process_frame D frame now send = gateway.process_frame D frame now send' :=
  congrArg (·, gateway.count_frame frame now) (call_qwen_api_congr h)

end Asked

/-! ## What is sent

The requests of a frame, from what the gateway was made with and the calls so far: one if it is
live and has a token, and none otherwise. `initialize` sends nothing, with or without success. -/

section Sent

variable {T : Type} {start gateway : TeeGateway T} {log : List (GatewayEntry T)}

/-- The requests for a frame after the calls of `older`. -/
def requests_of (start : TeeGateway T) (older : List (GatewayEntry T)) (frame : TelemetryFrame) :
    List HttpRequest :=
  match last_token older with
  | none => []
  | some api_token =>
    if start.live then [chat_request start.qwen_endpoint start.qwen_model api_token frame] else []

theorem Configured.sent_eq (h : Configured start gateway log) (frame : TelemetryFrame) (now : ℕ) :
    sent (gateway.process_effects frame now) = requests_of start log frame := by
  have heffects : gateway.process_effects frame now =
      (gateway.count_frame frame now).call_effects (frame_prompt frame) := rfl
  have hkey : (gateway.count_frame frame now).qwen_api_key = gateway.qwen_api_key := rfl
  have hclient : (gateway.count_frame frame now).http_client = gateway.http_client := rfl
  have hlive : (gateway.count_frame frame now).live = gateway.live := rfl
  rw [heffects, TeeGateway.call_effects, requests_of, hkey, hclient, hlive, h.qwen_api_key,
    h.http_client, h.live]
  cases last_token log with
  | none => rfl
  | some api_token =>
      dsimp only [Option.map_some]
      by_cases hstart : start.live = true
      · rw [if_pos hstart, if_pos hstart, h.request_eq]
        rfl
      · rw [if_neg hstart, if_neg hstart]
        rfl

theorem initialize_sends_nothing [TeeBackend T] (gateway : TeeGateway T) (api_token : List UInt8) :
    sent (gateway.initialize_effects api_token) = [] := by
  unfold TeeGateway.initialize_effects
  split
  · rfl
  · rfl

end Sent

end SovereignEdgeTee
