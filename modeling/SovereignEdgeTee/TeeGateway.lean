/-
`crates/tee-gateway/src/lib.rs`, the upper half: the gateway that seals the API token,
hands telemetry frames to the model service and logs what it answered.

JSON parsing, the digest and the HTTP request come from other crates. The first two are
a parameter, `Dependencies`. A request is answered by the function `send`, which differs
from call to call, so the network may answer anything at any time. The texts of errors
that other crates raise are theirs.
-/
import SovereignEdgeTee.Common
import SovereignEdgeTee.TeeStorage
import Mathlib.Data.List.AList

set_option autoImplicit false

namespace SovereignEdgeTee

open Mealy

/-! ## JSON

`serde_json::Value` and the accessors that the crate calls on it. `index` is the operator
`v[key]`, which answers `Null` rather than panic, so a chain of accessors never stops the
gateway. -/

/-- `serde_json::Number`. -/
inductive Number where
  | pos_int (n : UInt64)
  | neg_int (i : Int64)
  | float (f : F64)

/-- `serde_json::Value`. -/
inductive Value where
  | null
  | bool (b : Bool)
  | number (n : Number)
  | string (s : String)
  | array (elements : List Value)
  | object (entries : List (String × Value))

namespace Value

/-- `v[key]`: `Null` when `v` is no object, or has no such key. -/
def index (self : Value) (key : String) : Value :=
  match self with
  | .object entries => (entries.lookup key).getD .null
  | _ => .null

def as_str : Value → Option String
  | .string s => some s
  | _ => none

def as_array : Value → Option (List Value)
  | .array elements => some elements
  | _ => none

def as_u64 : Value → Option UInt64
  | .number (.pos_int n) => some n
  | _ => none

end Value

/-! ## HTTP

A request as far as the gateway decides it, and what may become of one. The timeouts, the
header fields and the connection are `reqwest`'s own. -/

/-- A status code, with the text it is displayed as. -/
structure StatusCode where
  code : UInt16
  text : String
deriving DecidableEq

def StatusCode.is_success (self : StatusCode) : Bool := 200 ≤ self.code && self.code < 300

/-- What the gateway puts into a request: a POST with a bearer token and a JSON body. -/
structure HttpRequest where
  url : String
  bearer_auth : String
  json : Value

/-- What becomes of a request: it fails, or there is a status and a body, which may be
unreadable. An error is its text. -/
inductive HttpOutcome where
  | failed (e : String)
  | answered (status : StatusCode) (text : Except String String)

/-- `reqwest::Client`. The gateway only asks whether it has one. -/
structure Client
deriving DecidableEq

/-- What the gateway takes from other crates. -/
structure Dependencies where
  /-- `serde_json::from_str`. An error is its text. -/
  from_str : String → Except String Value
  /-- `Sha256::digest`. -/
  sha256 : List UInt8 → Vector UInt8 32

/-! ## Responses

The types of the answer, and how `call_qwen_api` fills them from a body. Every field has its
default; only the list of choices may be empty, and that is an error one function later. -/

structure QwenMessage where
  role : String
  content : String
deriving DecidableEq

structure QwenChoice where
  index : ℕ
  message : QwenMessage
  finish_reason : String
deriving DecidableEq

structure QwenUsage where
  prompt_tokens : ℕ
  completion_tokens : ℕ
  total_tokens : ℕ
deriving DecidableEq

structure QwenResponse where
  request_id : String
  model : String
  choices : List QwenChoice
  usage : QwenUsage
deriving DecidableEq

/-- The choices `call_qwen_api` reads from a body, each field with its default. -/
def qwen_choices (v : Value) : List QwenChoice :=
  (((v.index "choices").as_array).map fun arr =>
    arr.mapIdx fun i c =>
      { index := i
        message :=
          { role := (((c.index "message").index "role").as_str).getD "assistant"
            content := (((c.index "message").index "content").as_str).getD "" }
        finish_reason := ((c.index "finish_reason").as_str).getD "stop" }).getD []

/-- A token count of `v["usage"]`. -/
def usage_count (v : Value) (key : String) : ℕ :=
  ((((v.index "usage").index key).as_u64).getD 0).toNat

/-- `str::trim_end_matches`, for one character. -/
def trim_end_matches (s : String) (c : Char) : String :=
  String.ofList (s.toList.reverse.dropWhile (· == c)).reverse

/-! ## The gateway

`process_frame` is split in two as the source's text is: `count_frame` is its bookkeeping,
which comes first and cannot fail, and `call_qwen_api` is the rest, in which the prompt is
sent or the demo's answer is put together. `receive` is what a live call makes of each
outcome, error texts included. -/

/-- `SessionState`. The instant is a number of nanoseconds. -/
structure SessionState where
  last_activity : ℕ
  frame_count : UInt64
deriving DecidableEq

structure GatewayStats where
  processed_frames : UInt64
  active_sessions : ℕ
  api_calls : UInt64
deriving DecidableEq

def SYSTEM_PROMPT : String :=
  "You are an AI agent analyzing real-time edge telemetry.\n" ++
  "Your task is to provide actionable insights and decisions based on sensor data.\n" ++
  "Respond with structured JSON containing: action, confidence, reasoning."

/-- The answer of the offline demo. -/
def canned_content : String :=
  "\x7b\"action\": \"MAINTAIN_COURSE\", \"confidence\": 0.92, " ++
  "\"reasoning\": \"Sensor readings nominal\"\x7d"

structure TeeGateway (T : Type) where
  storage : SealedStorage T
  qwen_api_key : Option String
  qwen_endpoint : String
  qwen_model : String
  live : Bool
  processed_frames : UInt64
  session_cache : AList fun _ : String => SessionState
  http_client : Option Client

namespace TeeGateway

variable {T : Type}

def new (tee : T) (qwen_endpoint : String) : TeeGateway T where
  storage := SealedStorage.new tee
  qwen_api_key := none
  qwen_endpoint := qwen_endpoint
  qwen_model := "qwen-max"
  live := false
  processed_frames := 0
  session_cache := ∅
  http_client := none

def new_live (tee : T) (qwen_endpoint model : String) : TeeGateway T :=
  { new tee qwen_endpoint with qwen_model := model, live := true }

/-- `TeeGateway::initialize`. Building the HTTP client panics where it fails, so it adds no
error. -/
def initialize_with [TeeBackend T] (self : TeeGateway T) (api_token : List UInt8) :
    Except GatewayError Unit × TeeGateway T :=
  match self.storage.verify_attestation with
  | (.error e, storage) => (.error e, { self with storage := storage })
  | (.ok _, storage) =>
    match storage.seal api_token with
    | (.error e, storage) => (.error e, { self with storage := storage })
    | (.ok (), storage) =>
      (.ok (), { self with
        storage := storage
        qwen_api_key := some (Utf8.from_utf8_lossy api_token)
        http_client := some ⟨⟩ })

def build_prompt (_self : TeeGateway T) (frame : TelemetryFrame) : Except GatewayError String :=
  let context := Utf8.from_utf8_lossy frame.payload
  let user_prompt := "Telemetry Frame #" ++ toString frame.frame_id ++ " from " ++
    frame.source_ip ++ "\nData: " ++ context ++ "\n\nAnalyze and provide decision:"
  .ok (SYSTEM_PROMPT ++ "\n\n" ++ user_prompt)

/-- The request of a live call. -/
def request (self : TeeGateway T) (api_key prompt : String) : HttpRequest where
  url := trim_end_matches self.qwen_endpoint '/' ++ "/chat/completions"
  bearer_auth := api_key
  json := .object [("model", .string self.qwen_model),
    ("messages", .array [.object [("role", .string "user"), ("content", .string prompt)]])]

/-- The part of `call_qwen_api` after the body is parsed. -/
def response_of (self : TeeGateway T) (v : Value) : Except GatewayError QwenResponse :=
  let choices := qwen_choices v
  if choices.isEmpty then .error (.QwenApiError "response contained no choices")
  else .ok {
    request_id := ((v.index "id").as_str).getD "unknown"
    model := ((v.index "model").as_str).getD self.qwen_model
    choices := choices
    usage :=
      { prompt_tokens := usage_count v "prompt_tokens"
        completion_tokens := usage_count v "completion_tokens"
        total_tokens := usage_count v "total_tokens" } }

/-- What `call_qwen_api` makes of the outcome of its request. -/
def receive (D : Dependencies) (self : TeeGateway T) :
    HttpOutcome → Except GatewayError QwenResponse
  | .failed e => .error (.QwenApiError ("request failed: " ++ e))
  | .answered _ (.error e) => .error (.QwenApiError e)
  | .answered status (.ok text) =>
    if !status.is_success then
      .error (.QwenApiError ("HTTP " ++ status.text ++ ": " ++ text))
    else
      match D.from_str text with
      | .error e => .error (.QwenApiError ("bad JSON: " ++ e))
      | .ok v => self.response_of v

/-- The response of a gateway that is not live. -/
def simulated_response (self : TeeGateway T) (prompt : String) : QwenResponse where
  request_id := "tee-req-" ++ toString self.processed_frames
  model := self.qwen_model
  choices := [⟨0, ⟨"assistant", canned_content⟩, "stop"⟩]
  usage := ⟨prompt.utf8ByteSize / 4, 50, prompt.utf8ByteSize / 4 + 50⟩

def call_qwen_api (D : Dependencies) (self : TeeGateway T) (prompt : String)
    (send : HttpRequest → HttpOutcome) : Except GatewayError QwenResponse :=
  match self.qwen_api_key with
  | none => .error .ApiKeyNotInitialized
  | some api_key =>
    if self.live then
      match self.http_client with
      | none => .error (.QwenApiError "HTTP client not initialized")
      | some _ => self.receive D (send (self.request api_key prompt))
    else .ok (self.simulated_response prompt)

/-- The bookkeeping of `process_frame`. The entry of the source is made if there is none;
the clock is read once more after that, at `now`. -/
def count_frame (self : TeeGateway T) (frame : TelemetryFrame) (now : ℕ) : TeeGateway T :=
  let session := (self.session_cache.lookup frame.source_ip).getD ⟨now, 0⟩
  { self with
    processed_frames := self.processed_frames + 1
    session_cache := self.session_cache.insert frame.source_ip
      ⟨now, session.frame_count + 1⟩ }

def process_frame (D : Dependencies) (self : TeeGateway T) (frame : TelemetryFrame) (now : ℕ)
    (send : HttpRequest → HttpOutcome) : Except GatewayError QwenResponse × TeeGateway T :=
  let self := self.count_frame frame now
  match self.build_prompt frame with
  | .error e => (.error e, self)
  | .ok prompt => (self.call_qwen_api D prompt send, self)

/-- The text of an entry, which its hash is the hash of. -/
def log_text (frame_id : UInt64) (model content : String) (total_tokens : ℕ) : String :=
  "FRAME:" ++ toString frame_id ++ "|MODEL:" ++ model ++ "|ACTION:" ++ content ++ "|TOKENS:" ++
    toString total_tokens

/-- `TeeGateway::generate_execution_log`, or `none` where `choices[0]` panics. -/
def generate_execution_log (D : Dependencies) (_self : TeeGateway T) (frame_id : UInt64)
    (response : QwenResponse) : Option (List UInt8) :=
  match response.choices with
  | [] => none
  | choice :: _ =>
    let log := log_text frame_id response.model choice.message.content
      response.usage.total_tokens
    let hash := D.sha256 (as_bytes log)
    some (as_bytes (log ++ "|HASH:" ++ lower_hex hash))

def stats (self : TeeGateway T) : GatewayStats :=
  ⟨self.processed_frames, self.session_cache.keys.length, self.processed_frames⟩

def is_initialized (self : TeeGateway T) : Bool :=
  self.qwen_api_key.isSome && self.storage.is_attested

end TeeGateway

/-! ## Runs

A call brings its clock reading and its network along, so the runs of a gateway are over every
clock and every network. The panic of `choices[0]` is the `none` of `generate_execution_log`. -/

/-- A call of a gateway, with what the clock and the network answer while it runs. -/
inductive GatewayCall where
  | initialize_with (api_token : List UInt8)
  | process_frame (frame : TelemetryFrame) (now : ℕ) (send : HttpRequest → HttpOutcome)
  | generate_execution_log (frame_id : UInt64) (response : QwenResponse)

inductive GatewayReply where
  | initialized (result : Except GatewayError Unit)
  | processed (result : Except GatewayError QwenResponse)
  | logged (entry : Option (List UInt8))

/-- One call. -/
def TeeGateway.step {T : Type} [TeeBackend T] (D : Dependencies) (self : TeeGateway T) :
    GatewayCall → TeeGateway T × GatewayReply
  | .initialize_with api_token =>
    ((self.initialize_with api_token).2, .initialized (self.initialize_with api_token).1)
  | .process_frame frame now send =>
    ((self.process_frame D frame now send).2, .processed (self.process_frame D frame now send).1)
  | .generate_execution_log frame_id response =>
    (self, .logged (self.generate_execution_log D frame_id response))

/-- A step of a gateway. -/
abbrev GatewayEntry (T : Type) := Entry (TeeGateway T) GatewayCall GatewayReply

/-- A new gateway, live when it is given a model. -/
def TeeGateway.start {T : Type} (tee : T) (qwen_endpoint : String) :
    Option String → TeeGateway T
  | none => new tee qwen_endpoint
  | some model => new_live tee qwen_endpoint model

/-- The run of `calls` on a new gateway. -/
def gateway_run {T : Type} [TeeBackend T] (D : Dependencies) (tee : T) (qwen_endpoint : String)
    (live_model : Option String) (calls : List GatewayCall) :
    TeeGateway T × List (GatewayEntry T) :=
  exec (TeeGateway.step D) (TeeGateway.start tee qwen_endpoint live_model) calls

end SovereignEdgeTee
