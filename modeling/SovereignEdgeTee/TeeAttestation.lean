/-
What stands between a gateway and the model service, over whole runs: a frame is
answered only after some `initialize` attested the enclave and sealed the token.

`initialize` changes four things in a row and may stop between any two of them.
`initialize_cases` says once what it can do; the invariant `Backed` ties the key to the
`initialize` that set it. No other call touches what `Backed` speaks of.
-/
import SovereignEdgeTee.TeeGateway

set_option autoImplicit false

namespace SovereignEdgeTee

open Mealy

variable {T : Type}

/-! ## `initialize`

Lines 251 to 270 of the source: attest, seal, keep the token, build the client.
`initialize_cases` has both outcomes with the whole state after each; a seal that fails leaves
the flag set by the attestation before it. -/

namespace TeeGateway

/-- Either both calls of the backend succeed and the token is stored, or the gateway
changes nothing but the backend's state and, if the attestation succeeded, the flag. -/
theorem initialize_cases [TeeBackend T] (self : TeeGateway T) (api_token : List UInt8) :
    (∃ report sealed_data tee,
      (TeeBackend.attest self.storage.tee).1 = .ok report ∧
      TeeBackend.seal (TeeBackend.attest self.storage.tee).2 api_token = (.ok sealed_data, tee) ∧
      self.initialize_with api_token = (.ok (), { self with
        storage := ⟨tee, sealed_data, true⟩
        qwen_api_key := some (Utf8.from_utf8_lossy api_token)
        http_client := some ⟨⟩ })) ∨
    (∃ e tee attested, (self.storage.attested = true → attested = true) ∧
      self.initialize_with api_token =
        (.error e, { self with storage := ⟨tee, self.storage.sealed_data, attested⟩ })) := by
  rcases hattest : TeeBackend.attest self.storage.tee with ⟨e | report, attested_tee⟩
  · have hverify : self.storage.verify_attestation
        = (.error e, { self.storage with tee := attested_tee }) := by
      rw [SealedStorage.verify_attestation, hattest]
    refine Or.inr ⟨e, attested_tee, self.storage.attested, fun h => h, ?_⟩
    rw [initialize_with, hverify]
  · have hverify : self.storage.verify_attestation
        = (.ok report, { self.storage with tee := attested_tee, attested := true }) := by
      rw [SealedStorage.verify_attestation, hattest]
    rcases hseal : TeeBackend.seal attested_tee api_token with ⟨e | sealed_data, tee⟩
    · -- the flag is set by now, and stays set
      refine Or.inr ⟨e, tee, true, fun _ => rfl, ?_⟩
      rw [initialize_with, hverify]
      simp only [SealedStorage.seal, hseal]
    · refine Or.inl ⟨report, sealed_data, tee, rfl, rfl, ?_⟩
      rw [initialize_with, hverify]
      simp only [SealedStorage.seal, hseal]

end TeeGateway

/-! ## `process_frame`

A live gateway that has a key but no client answers with a text of its own. To say that this
never happens, every other error text has to be told apart from it, and a colon does that. The
network itself may send the same words, and that is excluded by name. -/

/-- The message of a live gateway without a client. -/
def no_client : String := "HTTP client not initialized"

/-- The other messages of the gateway have a colon in them, or are fixed. -/
theorem ne_no_client {message : String} (h : ':' ∈ message.toList) : message ≠ no_client := by
  rintro rfl
  exact absurd h (by decide)

theorem colon_mem (before after : String) : ':' ∈ (before ++ ": " ++ after).toList := by
  rw [String.toList_append, String.toList_append, List.mem_append, List.mem_append]
  exact Or.inl (Or.inr (by decide))

namespace TeeGateway

/-- Two API errors are the same only with the same message. -/
theorem message_eq {α : Type} {message message' : String}
    (h : (.error (.QwenApiError message) : Except GatewayError α)
      = .error (.QwenApiError message')) : message = message' :=
  GatewayError.QwenApiError.inj (Except.error.inj h)

theorem response_of_ne_no_client (self : TeeGateway T) (v : Value) :
    self.response_of v ≠ .error (.QwenApiError no_client) := by
  rw [response_of]
  split
  · intro h
    exact absurd (message_eq h) (by decide)
  · intro h
    cases h

/-- Only a body that could not be read can bring in that message. -/
theorem receive_ne_no_client (D : Dependencies) (self : TeeGateway T) (outcome : HttpOutcome)
    (h : ∀ status, outcome ≠ .answered status (.error no_client)) :
    self.receive D outcome ≠ .error (.QwenApiError no_client) := by
  intro hreceive
  rw [receive.eq_def] at hreceive
  split at hreceive
  · exact ne_no_client (colon_mem "request failed" _) (message_eq hreceive)
  · -- the body could not be read, and the error is the network's own
    exact h _ (by rw [message_eq hreceive])
  · split at hreceive
    · exact ne_no_client (colon_mem _ _) (message_eq hreceive)
    · split at hreceive
      · exact ne_no_client (colon_mem "bad JSON" _) (message_eq hreceive)
      · exact self.response_of_ne_no_client _ hreceive

/-- The API is only called with a key. -/
theorem key_of_call {D : Dependencies} {self : TeeGateway T} {prompt : String}
    {send : HttpRequest → HttpOutcome} {response : QwenResponse}
    (h : self.call_qwen_api D prompt send = .ok response) :
    ∃ key, self.qwen_api_key = some key := by
  rw [call_qwen_api] at h
  split at h
  · cases h
  · rename_i key hkey
    exact ⟨key, hkey⟩

/-- Where a key comes with a client, no call fails for want of one. -/
theorem call_ne_no_client (D : Dependencies) (self : TeeGateway T) (prompt : String)
    (send : HttpRequest → HttpOutcome)
    (hclient : ∀ key, self.qwen_api_key = some key → self.http_client.isSome = true)
    (hsend : ∀ request status, send request ≠ .answered status (.error no_client)) :
    self.call_qwen_api D prompt send ≠ .error (.QwenApiError no_client) := by
  rw [call_qwen_api]
  split
  · intro h
    cases h
  · rename_i key hkey
    split
    · split
      · -- a key without a client, which the assumption excludes
        rename_i hnone
        have hsome := hclient key hkey
        rw [hnone] at hsome
        cases hsome
      · exact self.receive_ne_no_client D _ (hsend _)
    · intro h
      cases h

/-- A frame is answered by the API, with the frame counted already. -/
theorem process_frame_reply (D : Dependencies) (self : TeeGateway T) (frame : TelemetryFrame)
    (now : ℕ) (send : HttpRequest → HttpOutcome) :
    ∃ prompt, (self.process_frame D frame now send).1
      = (self.count_frame frame now).call_qwen_api D prompt send :=
  ⟨_, rfl⟩

end TeeGateway

/-! ## Steps

`Backed` is stated about the last `initialize` of the log that returned `Ok`. A failing one
leaves key, client and sealed data alone, and the flag can only go up, so what was backed
stays so. -/

/-- The last `initialize` of a log that returned `Ok`. -/
def last_initialized : List (GatewayEntry T) → Option (GatewayEntry T)
  | [] => none
  | e :: older =>
    match e.output with
    | .initialized (.ok ()) => some e
    | _ => last_initialized older

theorem last_initialized_mem {log : List (GatewayEntry T)} {e : GatewayEntry T}
    (h : last_initialized log = some e) : e ∈ log := by
  induction log with
  | nil => cases h
  | cons newest older ih =>
      rw [last_initialized] at h
      split at h
      · rw [Option.some.inj h]
        exact List.mem_cons_self
      · exact List.mem_cons_of_mem _ (ih h)

section Steps

variable [TeeBackend T]

/-- The step is an `initialize` that completed: the backend attested and sealed. -/
def Completed (e : GatewayEntry T) (api_token sealed_data : List UInt8) : Prop :=
  e.input = .initialize_with api_token ∧ e.output = .initialized (.ok ()) ∧
    (∃ report, (TeeBackend.attest e.before.storage.tee).1 = .ok report) ∧
    (TeeBackend.seal (TeeBackend.attest e.before.storage.tee).2 api_token).1 = .ok sealed_data

/-- The key of a gateway comes from the last completed `initialize` of its log, and so
does everything a key must come with. -/
def Backed (gateway : TeeGateway T) (log : List (GatewayEntry T)) : Prop :=
  ∀ key, gateway.qwen_api_key = some key →
    gateway.storage.is_attested = true ∧ gateway.http_client.isSome = true ∧
    ∃ e api_token, last_initialized log = some e ∧
      Completed e api_token gateway.storage.sealed_data ∧
      key = Utf8.from_utf8_lossy api_token

/-- An `initialize` that completes sets a key with everything it must come with. -/
theorem backed_of_completed {gateway after : TeeGateway T} {log : List (GatewayEntry T)}
    {e : GatewayEntry T} {api_token sealed_data : List UInt8} {tee : T}
    (hcompleted : Completed e api_token sealed_data)
    (hafter : after = { gateway with
      storage := ⟨tee, sealed_data, true⟩
      qwen_api_key := some (Utf8.from_utf8_lossy api_token)
      http_client := some ⟨⟩ }) : Backed after (e :: log) := by
  intro key hkey
  rw [hafter] at hkey ⊢
  refine ⟨rfl, rfl, e, api_token, ?_, hcompleted, (Option.some.inj hkey).symm⟩
  rw [last_initialized, hcompleted.2.1]

/-- An `initialize` that fails leaves the last one that completed, and what it set. -/
theorem Backed.of_failed {gateway after : TeeGateway T} {log : List (GatewayEntry T)}
    (h : Backed gateway log) {e : GatewayEntry T} {error : GatewayError} {tee : T}
    {attested : Bool} (houtput : e.output = .initialized (.error error))
    (hflag : gateway.storage.attested = true → attested = true)
    (hafter : after
      = { gateway with storage := ⟨tee, gateway.storage.sealed_data, attested⟩ }) :
    Backed after (e :: log) := by
  intro key hkey
  rw [hafter] at hkey ⊢
  obtain ⟨hset, hclient, earlier, api_token, hlast, hcompleted, hkey_eq⟩ := h key hkey
  refine ⟨hflag hset, hclient, earlier, api_token, ?_, hcompleted, hkey_eq⟩
  rw [last_initialized, houtput]
  exact hlast

/-- One call keeps the key backed. -/
theorem backed_step (D : Dependencies) (gateway : TeeGateway T) (log : List (GatewayEntry T))
    (call : GatewayCall) (h : Backed gateway log) :
    Backed (gateway.step D call).1 (entry (TeeGateway.step D) gateway call :: log) := by
  cases call with
  | initialize_with api_token =>
      rcases gateway.initialize_cases api_token with
        ⟨report, sealed_data, tee, hattest, hseal, hinit⟩ | ⟨e, tee, attested, hflag, hinit⟩
      · have houtput : (entry (TeeGateway.step D) gateway (.initialize_with api_token)).output
            = .initialized (.ok ()) := congrArg GatewayReply.initialized (congrArg Prod.fst hinit)
        have hcompleted : Completed (entry (TeeGateway.step D) gateway (.initialize_with api_token))
            api_token sealed_data :=
          ⟨rfl, houtput, ⟨report, hattest⟩, congrArg Prod.fst hseal⟩
        exact backed_of_completed hcompleted (congrArg Prod.snd hinit)
      · have houtput : (entry (TeeGateway.step D) gateway (.initialize_with api_token)).output
            = .initialized (.error e) := congrArg GatewayReply.initialized (congrArg Prod.fst hinit)
        exact h.of_failed houtput hflag (congrArg Prod.snd hinit)
  -- the other calls write neither the key, nor the storage, nor the client
  | process_frame frame now send => exact h
  | generate_execution_log frame_id response => exact h

/-! ## Runs

The four promises, each as a guard on the steps of a run. Three of them are read off `Backed`;
the last is about `initialize` alone and needs no invariant. -/

/-- Frames are answered only after an `initialize` that completed. -/
def AnswersAttested (older : List (GatewayEntry T)) (e : GatewayEntry T) : Prop :=
  ∀ response, e.output = .processed (.ok response) →
    ∃ earlier ∈ older, ∃ api_token sealed_data, Completed earlier api_token sealed_data

/-- No frame fails for want of a client, as long as the network does not fail with the same
words. -/
def HasClient (_older : List (GatewayEntry T)) (e : GatewayEntry T) : Prop :=
  ∀ frame now send, e.input = .process_frame frame now send →
    (∀ request status, send request ≠ .answered status (.error no_client)) →
      e.output ≠ .processed (.error (.QwenApiError no_client))

/-- An `initialize` that fails keeps the key and the sealed data. -/
def FailureKeeps (D : Dependencies) (_older : List (GatewayEntry T)) (e : GatewayEntry T) : Prop :=
  ∀ api_token error, e.input = .initialize_with api_token →
    e.output = .initialized (.error error) →
      (e.before.step D e.input).1.qwen_api_key = e.before.qwen_api_key ∧
        (e.before.step D e.input).1.storage.sealed_data = e.before.storage.sealed_data

theorem Backed.answers_attested {D : Dependencies} {gateway : TeeGateway T}
    {log : List (GatewayEntry T)} (h : Backed gateway log) (call : GatewayCall) :
    AnswersAttested log (entry (TeeGateway.step D) gateway call) := by
  intro response houtput
  cases call with
  | process_frame frame now send =>
      obtain ⟨prompt, hreply⟩ := gateway.process_frame_reply D frame now send
      have hok : (gateway.process_frame D frame now send).1 = .ok response :=
        GatewayReply.processed.inj houtput
      rw [hreply] at hok
      -- an answer takes a key, and a key is backed
      obtain ⟨key, hkey⟩ := TeeGateway.key_of_call hok
      obtain ⟨-, -, e, api_token, hlast, hcompleted, -⟩ := h key hkey
      exact ⟨e, last_initialized_mem hlast, api_token, _, hcompleted⟩
  | initialize_with api_token => cases houtput
  | generate_execution_log frame_id response => cases houtput

theorem Backed.has_client {D : Dependencies} {gateway : TeeGateway T}
    {log : List (GatewayEntry T)} (h : Backed gateway log) (call : GatewayCall) :
    HasClient log (entry (TeeGateway.step D) gateway call) := by
  rintro frame now send hinput hsend houtput
  have hcall : call = .process_frame frame now send := hinput
  subst hcall
  obtain ⟨prompt, hreply⟩ := gateway.process_frame_reply D frame now send
  have herror : (gateway.process_frame D frame now send).1 = .error (.QwenApiError no_client) :=
    GatewayReply.processed.inj houtput
  rw [hreply] at herror
  refine (gateway.count_frame frame now).call_ne_no_client D prompt send ?_ hsend herror
  intro key hkey
  exact (h key hkey).2.1

theorem failure_keeps (D : Dependencies) (gateway : TeeGateway T) (log : List (GatewayEntry T))
    (call : GatewayCall) : FailureKeeps D log (entry (TeeGateway.step D) gateway call) := by
  rintro api_token error hinput houtput
  have hcall : call = .initialize_with api_token := hinput
  subst hcall
  have herror : (gateway.initialize_with api_token).1 = .error error :=
    GatewayReply.initialized.inj houtput
  rcases gateway.initialize_cases api_token with
    ⟨report, sealed_data, tee, -, -, hinit⟩ | ⟨e, tee, attested, -, hinit⟩
  · rw [hinit] at herror
    cases herror
  · have hkeep := congrArg Prod.snd hinit
    change (gateway.initialize_with api_token).2.qwen_api_key = _ ∧
      (gateway.initialize_with api_token).2.storage.sealed_data = _
    rw [hkeep]
    exact ⟨rfl, rfl⟩

/-- **The attestation gate.** Whatever the backend and the network answer, in every run of
a new gateway: the key is backed by the attestation and the sealing of the `initialize`
that set it, no frame is answered before there was such an `initialize`, none fails for
want of a client, and a failed `initialize` keeps the key and the sealed data. -/
theorem attestation_gate (D : Dependencies) (tee : T) (qwen_endpoint : String)
    (live_model : Option String) (calls : List GatewayCall) :
    let run := gateway_run D tee qwen_endpoint live_model calls
    Backed run.1 run.2 ∧ Guarded AnswersAttested run.2 ∧ Guarded HasClient run.2 ∧
      Guarded (FailureKeeps D) run.2 := by
  have hstart : Backed (TeeGateway.start tee qwen_endpoint live_model) [] := by
    intro key hkey
    cases live_model <;> cases hkey
  refine ⟨?_, ?_, ?_, ?_⟩
  · exact exec_induction _ hstart (backed_step D) calls
  · exact exec_guarded _ hstart (backed_step D) (fun _ _ call h => h.answers_attested call) calls
  · exact exec_guarded _ hstart (backed_step D) (fun _ _ call h => h.has_client call) calls
  · exact exec_guarded _ hstart (backed_step D)
      (fun gateway log call _ => failure_keeps D gateway log call) calls

end Steps

end SovereignEdgeTee
