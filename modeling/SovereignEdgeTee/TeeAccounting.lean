/-
The statistics of a gateway, over whole runs. `process_frame` counts a frame before it does
anything that can fail, once for the gateway and once for the source of the frame, and
nothing else counts. So the two counts agree whatever the API answers. The number of API
calls that `stats` reports is the first count once more, and that is too many as soon as
one frame comes while there is no key.
-/
import SovereignEdgeTee.Tally
import SovereignEdgeTee.TeeLog
import SovereignEdgeTee.TeeResponses

set_option autoImplicit false

namespace SovereignEdgeTee

open Mealy Tally

variable {T : Type}

/-! ## Frames by source

The session cache is a map that counts (`Tally`): the source's `entry(..).or_insert(..)`
followed by `+= 1` makes the entry of a key or raises it. All that is left is that nothing
else writes to the cache or to `processed_frames`, and that both count modulo `2 ^ 64`. -/

/-- The source of the frame a call processes. -/
def GatewayCall.source : GatewayCall → Option String
  | .process_frame frame _ _ => some frame.source_ip
  | _ => none

/-- The sources of the frames of a log, newest first. -/
def frame_sources (log : List (GatewayEntry T)) : List String :=
  log.filterMap fun e => e.input.source

/-- The frames that the entries of the session cache add up to. -/
def TeeGateway.cached_frames (self : TeeGateway T) : ℕ :=
  (self.session_cache.entries.map fun e => e.2.frame_count.toNat).sum

/-- A counter of 64 bits is what it counts, modulo its width. -/
theorem eq_ofNat_of_modEq {x : UInt64} {n : ℕ} (h : x.toNat ≡ n [MOD 2 ^ 64]) :
    x = UInt64.ofNat n := by
  have hmod : x.toNat % 2 ^ 64 = n % 2 ^ 64 := h
  rw [← UInt64.toNat_inj, UInt64.toNat_ofNat', ← hmod, Nat.mod_eq_of_lt x.toNat_lt]

/-- Every frame is counted once for the gateway and once for its source. -/
structure FramesCounted (gateway : TeeGateway T) (log : List (GatewayEntry T)) : Prop where
  processed : gateway.processed_frames = UInt64.ofNat (frame_sources log).length
  sessions : Tallied (fun session : SessionState => session.frame_count.toNat) (2 ^ 64)
    gateway.session_cache (frame_sources log)

theorem start_frames_counted (tee : T) (qwen_endpoint : String) (live_model : Option String) :
    FramesCounted (TeeGateway.start tee qwen_endpoint live_model) [] := by
  cases live_model with
  | none => exact ⟨rfl, Tallied.empty _ _⟩
  | some model => exact ⟨rfl, Tallied.empty _ _⟩

/-- `initialize` writes neither count. -/
theorem initialize_counts [TeeBackend T] (gateway : TeeGateway T) (api_token : List UInt8) :
    (gateway.initialize_with api_token).2.processed_frames = gateway.processed_frames ∧
      (gateway.initialize_with api_token).2.session_cache = gateway.session_cache := by
  rcases gateway.initialize_cases api_token with
    ⟨report, sealed_data, tee, -, -, hinit⟩ | ⟨e, tee, attested, -, hinit⟩
  · rw [hinit]
    exact ⟨rfl, rfl⟩
  · rw [hinit]
    exact ⟨rfl, rfl⟩

/-- A frame is counted, whether or not the API answers it. -/
theorem FramesCounted.count_frame {gateway : TeeGateway T} {log : List (GatewayEntry T)}
    (h : FramesCounted gateway log) (frame : TelemetryFrame) (now : ℕ) {e : GatewayEntry T}
    (he : e.input.source = some frame.source_ip) :
    FramesCounted (gateway.count_frame frame now) (e :: log) := by
  have hsources : frame_sources (e :: log) = frame.source_ip :: frame_sources log :=
    List.filterMap_cons_some he
  refine ⟨?_, ?_⟩
  · rw [hsources, List.length_cons, UInt64.ofNat_add, ← h.processed]
    rfl
  · rw [hsources]
    refine h.sessions.insert ?_
    rw [UInt64.toNat_add]
    refine (Nat.mod_modEq _ _).trans ?_
    -- a source without an entry gets one that counts zero before it is raised
    cases gateway.session_cache.lookup frame.source_ip with
    | none => rfl
    | some session => rfl

/-- A step that processes no frame counts none. -/
theorem FramesCounted.idle {gateway after : TeeGateway T} {log : List (GatewayEntry T)}
    (h : FramesCounted gateway log) {e : GatewayEntry T} (he : e.input.source = none)
    (hprocessed : after.processed_frames = gateway.processed_frames)
    (hcache : after.session_cache = gateway.session_cache) : FramesCounted after (e :: log) := by
  have hsources : frame_sources (e :: log) = frame_sources log := List.filterMap_cons_none he
  refine ⟨?_, ?_⟩
  · rw [hprocessed, hsources]
    exact h.processed
  · rw [hcache, hsources]
    exact h.sessions

section Counts

variable {gateway : TeeGateway T} {log : List (GatewayEntry T)}

/-- The entry of a source is there once it was seen. -/
theorem FramesCounted.lookup_eq (h : FramesCounted gateway log) (source_ip : String) :
    (gateway.session_cache.lookup source_ip).map SessionState.frame_count =
      if source_ip ∈ frame_sources log then
        some (UInt64.ofNat ((frame_sources log).count source_ip)) else none := by
  cases hlookup : gateway.session_cache.lookup source_ip with
  | none =>
      have habsent : source_ip ∉ frame_sources log := fun hmem =>
        AList.lookup_eq_none.mp hlookup ((h.sessions.mem source_ip).mpr hmem)
      rw [if_neg habsent, Option.map_none]
  | some session =>
      have hpresent : source_ip ∈ frame_sources log :=
        (h.sessions.mem source_ip).mp (AList.lookup_isSome.mp (by rw [hlookup]; rfl))
      rw [if_pos hpresent, Option.map_some,
        eq_ofNat_of_modEq (h.sessions.count_eq source_ip session hlookup)]

/-- The entries add up to the frames processed. -/
theorem FramesCounted.cached_frames_eq (h : FramesCounted gateway log) :
    UInt64.ofNat gateway.cached_frames = gateway.processed_frames := by
  have hsum : gateway.cached_frames ≡ (frame_sources log).length [MOD 2 ^ 64] :=
    h.sessions.sum_modEq
  rw [h.processed]
  apply eq_ofNat_of_modEq
  rw [UInt64.toNat_ofNat']
  exact (Nat.mod_modEq _ _).trans hsum

/-- As long as no counter can have wrapped around, the congruences of the invariant are
equations. -/
theorem FramesCounted.unwrapped (h : FramesCounted gateway log)
    (hlength : (frame_sources log).length < 2 ^ 64) :
    gateway.cached_frames = gateway.processed_frames.toNat ∧
      ∀ source_ip session, gateway.session_cache.lookup source_ip = some session →
        session.frame_count.toNat = (frame_sources log).count source_ip := by
  have hexact := h.sessions.exact (fun session => session.frame_count.toNat_lt) hlength
  refine ⟨?_, ?_⟩
  · have hsum : gateway.cached_frames = (frame_sources log).length :=
      Nat.modEq_zero_iff.mp hexact.sum_modEq
    rw [h.processed, hsum, UInt64.toNat_ofNat_of_lt' hlength]
  · intro source_ip session hlookup
    exact Nat.modEq_zero_iff.mp (hexact.count_eq source_ip session hlookup)

end Counts

section Runs

variable [TeeBackend T]

theorem frames_counted_step (D : Dependencies) (gateway : TeeGateway T)
    (log : List (GatewayEntry T)) (call : GatewayCall) (h : FramesCounted gateway log) :
    FramesCounted (gateway.step D call).1 (entry (TeeGateway.step D) gateway call :: log) := by
  cases call with
  | initialize_with api_token =>
      obtain ⟨hprocessed, hcache⟩ := initialize_counts gateway api_token
      exact h.idle rfl hprocessed hcache
  | process_frame frame now send => exact h.count_frame frame now rfl
  | generate_execution_log frame_id response => exact h.idle rfl rfl rfl

/-- **The accounts of a gateway.** After every run of a new gateway each source that was
seen has an entry, which counts its frames, and the entries add up to the frames that were
processed. The counters wrap around; in a run of fewer than `2 ^ 64` calls none does. -/
theorem gateway_accounting (D : Dependencies) (tee : T) (qwen_endpoint : String)
    (live_model : Option String) (calls : List GatewayCall) :
    let run := gateway_run D tee qwen_endpoint live_model calls
    (∀ source_ip, (run.1.session_cache.lookup source_ip).map SessionState.frame_count =
      if source_ip ∈ frame_sources run.2 then
        some (UInt64.ofNat ((frame_sources run.2).count source_ip)) else none) ∧
    run.1.processed_frames = UInt64.ofNat (frame_sources run.2).length ∧
    UInt64.ofNat run.1.cached_frames = run.1.processed_frames ∧
    run.1.stats.active_sessions = (frame_sources run.2).dedup.length ∧
    (calls.length < 2 ^ 64 →
      run.1.cached_frames = run.1.processed_frames.toNat ∧
      ∀ source_ip session, run.1.session_cache.lookup source_ip = some session →
        session.frame_count.toNat = (frame_sources run.2).count source_ip) := by
  intro run
  have h : FramesCounted run.1 run.2 :=
    exec_induction _ (start_frames_counted tee qwen_endpoint live_model) (frames_counted_step D)
      calls
  refine ⟨h.lookup_eq, h.processed, h.cached_frames_eq, ?_, ?_⟩
  · rw [TeeGateway.stats, h.sessions.keys_perm.length_eq]
  · intro hcalls
    have hlength : (frame_sources run.2).length ≤ calls.length := by
      rw [← exec_length (TeeGateway.step D) (TeeGateway.start tee qwen_endpoint live_model) calls]
      exact List.length_filterMap_le _ _
    exact h.unwrapped (hlength.trans_lt hcalls)

end Runs

/-! ## API calls

`stats` reports `processed_frames` once more under the name `api_calls`. That is the number of
frames, counted before the key is looked at; a call that fails for want of a key has reached
no API and is counted nevertheless. -/

/-- The step called the API and passed its check for a key. -/
def GatewayEntry.passed_key_check (e : GatewayEntry T) : Bool :=
  match e.input with
  | .process_frame frame now _ => (e.before.count_frame frame now).qwen_api_key.isSome
  | _ => false

/-- The calls of a log that passed the check. -/
def api_calls_made (log : List (GatewayEntry T)) : ℕ :=
  log.countP GatewayEntry.passed_key_check

/-- The step processes no frame while there is no key. -/
def Keyed (_older : List (GatewayEntry T)) (e : GatewayEntry T) : Prop :=
  ∀ frame now send, e.input = .process_frame frame now send → e.before.qwen_api_key.isSome = true

theorem key_of_process_frame (D : Dependencies) (gateway : TeeGateway T)
    (frame : TelemetryFrame) (now : ℕ) (send : HttpRequest → HttpOutcome)
    (h : (gateway.process_frame D frame now send).1 = .error .ApiKeyNotInitialized) :
    gateway.qwen_api_key = none := by
  obtain ⟨prompt, hreply⟩ := gateway.process_frame_reply D frame now send
  rw [hreply] at h
  rcases TeeGateway.call_qwen_api_cases D (gateway.count_frame frame now) prompt send with
    ⟨e, herror, hkey⟩ | ⟨response, hok, -⟩
  · rw [herror] at h
    exact hkey.mp (Except.error.inj h)
  · rw [hok] at h
    cases h

/-- A step that processes no frame makes no API call. -/
theorem api_calls_made_of_no_frame {log : List (GatewayEntry T)} {e : GatewayEntry T}
    (he : e.input.source = none) : api_calls_made (e :: log) = api_calls_made log := by
  refine List.countP_cons_of_neg ?_
  unfold GatewayEntry.passed_key_check
  split
  · rename_i hinput
    rw [hinput] at he
    cases he
  · exact Bool.false_ne_true

/-- Nor does it need a key. -/
theorem keyed_of_no_frame {log : List (GatewayEntry T)} {e : GatewayEntry T}
    (he : e.input.source = none) : Keyed log e := by
  intro frame now send hinput
  rw [hinput] at he
  cases he

section ApiCalls

variable [TeeBackend T]

/-- A step keeps the count of API calls right exactly if it is keyed. -/
theorem api_calls_step (D : Dependencies) (gateway : TeeGateway T) (log : List (GatewayEntry T))
    (call : GatewayCall) (h : gateway.stats.api_calls = UInt64.ofNat (api_calls_made log)) :
    ((gateway.step D call).1.stats.api_calls =
        UInt64.ofNat (api_calls_made (entry (TeeGateway.step D) gateway call :: log))) ↔
      Keyed log (entry (TeeGateway.step D) gateway call) := by
  cases call with
  | initialize_with api_token =>
      rw [api_calls_made_of_no_frame rfl, ← h]
      exact iff_of_true (initialize_counts gateway api_token).1 (keyed_of_no_frame rfl)
  | generate_execution_log frame_id response =>
      rw [api_calls_made_of_no_frame rfl, ← h]
      exact iff_of_true rfl (keyed_of_no_frame rfl)
  | process_frame frame now send =>
      have hcounted : (gateway.step D (.process_frame frame now send)).1.stats.api_calls =
          gateway.stats.api_calls + 1 := rfl
      -- `process_frame` counts the frame before the key is checked
      by_cases hkey : gateway.qwen_api_key.isSome = true
      · have hmade : api_calls_made (entry (TeeGateway.step D) gateway
            (.process_frame frame now send) :: log) = api_calls_made log + 1 :=
          List.countP_cons_of_pos hkey
        rw [hcounted, hmade, UInt64.ofNat_add, h]
        exact iff_of_true rfl fun _ _ _ _ => hkey
      · have hmade : api_calls_made (entry (TeeGateway.step D) gateway
            (.process_frame frame now send) :: log) = api_calls_made log :=
          List.countP_cons_of_neg hkey
        rw [hcounted, hmade, ← h]
        refine iff_of_false ?_ fun hkeyed => hkey (hkeyed frame now send rfl)
        -- no counter is its own successor
        intro hsame
        have hnat := congrArg UInt64.toNat hsame
        have hone : (1 : UInt64).toNat = 1 := rfl
        have hlt := gateway.stats.api_calls.toNat_lt
        rw [UInt64.toNat_add, hone] at hnat
        omega

/-- **What `api_calls` counts.** In a run of a new gateway, `api_calls` is the number of calls
that passed the check for a key, after every call, and is not raised by one that fails the
check, exactly if no frame is processed while there is no key. -/
theorem api_calls_counted_iff (D : Dependencies) (tee : T) (qwen_endpoint : String)
    (live_model : Option String) (calls : List GatewayCall) :
    ((∀ earlier, earlier <+: calls →
        (gateway_run D tee qwen_endpoint live_model earlier).1.stats.api_calls = UInt64.ofNat
          (api_calls_made (gateway_run D tee qwen_endpoint live_model earlier).2)) ∧
      ∀ e ∈ (gateway_run D tee qwen_endpoint live_model calls).2,
        e.output = .processed (.error .ApiKeyNotInitialized) →
          (e.before.step D e.input).1.stats.api_calls = e.before.stats.api_calls) ↔
    Guarded Keyed (gateway_run D tee qwen_endpoint live_model calls).2 := by
  have hstart : (TeeGateway.start tee qwen_endpoint live_model).stats.api_calls =
      UInt64.ofNat (api_calls_made ([] : List (GatewayEntry T))) := by
    cases live_model with
    | none => rfl
    | some model => rfl
  have hcounted := always_iff_guarded (TeeGateway.step D)
    (I := fun gateway log => gateway.stats.api_calls = UInt64.ofNat (api_calls_made log))
    hstart (api_calls_step D) calls
  constructor
  · rintro ⟨hcalls, -⟩
    exact hcounted.mp hcalls
  · intro hkeyed
    refine ⟨hcounted.mpr hkeyed, ?_⟩
    intro e he houtput
    have houtput' := exec_output (TeeGateway.step D) _ calls e he
    rcases hinput : e.input with api_token | ⟨frame, now, send⟩ | ⟨frame_id, response⟩
    · rw [houtput, hinput] at houtput'
      cases houtput'
    · -- a keyed call does not fail the check
      rw [houtput, hinput] at houtput'
      have hnone := key_of_process_frame D e.before frame now send
        (GatewayReply.processed.inj houtput').symm
      have hsome := hkeyed.forall e he frame now send hinput
      rw [hnone] at hsome
      cases hsome
    · rw [houtput, hinput] at houtput'
      cases houtput'

end ApiCalls

/-- The run of one frame on a gateway that was never initialized. -/
def keyless_run : TeeGateway (SimulatedTee short_digest.sha256) ×
    List (GatewayEntry (SimulatedTee short_digest.sha256)) :=
  gateway_run short_digest (SimulatedTee.new short_digest.sha256)
    "https://dashscope.aliyuncs.com/api/v1" none
    [.process_frame ⟨1, "192.168.1.1", none, 0, [1, 2, 3, 4]⟩ 0 fun _ => .failed "offline"]

/-- The frame fails for want of a key, and is reported as an API call. -/
theorem keyless_frame_counted :
    keyless_run.2.map (fun e => e.output) = [.processed (.error .ApiKeyNotInitialized)] ∧
      keyless_run.1.stats.api_calls ≠ UInt64.ofNat (api_calls_made keyless_run.2) :=
  ⟨rfl, by decide⟩

end SovereignEdgeTee
