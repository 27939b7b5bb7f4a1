/-
The channel between the two sessions of a key exchange, on a hostile network.

Session `a` comes from `establish_session` and session `b` from `accept_session` on the
encapsulation it returned. Each direction has its own key. When one session of the network
sends under a key, `CounterChannel.received_prefix` gives the safety of that direction: what
the other side has accepted is a prefix of what this one has sent, whatever the network
delivers.

From `a` to `b` the key has one sender, since no other `establish_session` draws the same
secrets. From `b` to `a` it may have two: `accept_session` does not remember what it has
accepted, so the same secrets can be recovered again and make a second session that sends
under the key of `b`. That the encapsulation is accepted once does not exclude this. The
session keys are derived from the shared secrets alone and do not bind the encapsulation,
and X25519 ignores the top bit of a public key. So an encapsulation with that bit changed
is another encapsulation with the same secrets (`malleated_run_breaks_channel`).
-/
import SovereignEdgeTee.PqcNetwork
import SovereignEdgeTee.PqcTransparent

set_option autoImplicit false

namespace SovereignEdgeTee

open CounterChannel (view received_prefix sentBy receivedBy)
open Transparent (establish accept encapsulation exchange_secrets receiver_kem telemetry wire)

variable {P : Primitives} {ι : Type*} [DecidableEq ι]

/-- The frames successfully encrypted on a session, first one first. -/
def encrypted_on (x : ι × ℕ) (log : List (NetworkEntry P ι)) : List (UInt64 × List UInt8) :=
  (((log.filterMap sealed_on).filter fun y => y.1 = x).map fun y =>
    (y.2.frame_id, y.2.payload)).reverse

/-- The frames a session has accepted, first one first. -/
def decrypted_on (x : ι × ℕ) (log : List (NetworkEntry P ι)) : List (UInt64 × List UInt8) :=
  (((log.filterMap opened_on).filter fun y => y.1 = x).map fun y =>
    (y.2.frame_id, y.2.payload)).reverse

theorem encrypted_on_eq (x : ι × ℕ) (log : List (NetworkEntry P ι)) :
    encrypted_on x log =
      (sentBy x (history log)).map fun m => (m.frame_id, m.payload) := by
  rw [encrypted_on, CounterChannel.sentBy_eq, sends_history, List.map_reverse, List.map_map]
  rfl

theorem decrypted_on_eq (x : ι × ℕ) (log : List (NetworkEntry P ι)) :
    decrypted_on x log =
      (receivedBy x (history log)).map fun m => (m.frame_id, m.payload) := by
  rw [decrypted_on, CounterChannel.receivedBy_eq, recvs_history, List.map_reverse, List.map_map]
  rfl

/-- A step is the `establish_session` call towards `remote_public` that returned session
`a` and the encapsulation. -/
def established_at (a : ι × ℕ) (remote_public : HybridPublicKey)
    (encapsulation : HybridEncapsulation) (e : NetworkEntry P ι) : Bool :=
  match e.input.2, e.output with
  | .establish_session _ remote _ _ _, .established (.ok (session, enc)) =>
    (e.input.1, session) = a ∧ remote = remote_public ∧ enc = encapsulation
  | _, _ => false

/-- A step is the `accept_session` call on the encapsulation, with the key pair
`local_kem`, that returned session `b`. -/
def accepted_at (b : ι × ℕ) (local_kem : HybridKem P) (encapsulation : HybridEncapsulation)
    (e : NetworkEntry P ι) : Bool :=
  match e.input.2, e.output with
  | .accept_session kem enc _ _, .accepted (.ok session) =>
    (e.input.1, session) = b ∧ kem = local_kem ∧ enc = encapsulation
  | _, _ => false

/-! ## The two sessions of an exchange

`established_at` and `accepted_at` find the two sessions in the log by what their calls were
given and returned. Both come from the secrets of the exchange, on opposite sides of it. -/

section Exchange

variable {timeouts : ι → UInt64} {xs : List (ι × TransportCall P)}

/-- A step of the network is a step of the process that takes it. -/
theorem mem_party_log {e : NetworkEntry P ι} (he : e ∈ (network P timeouts xs).2) :
    Mealy.localEntry e ∈ (Mealy.exec (Process.step P) (Process.start (timeouts e.input.1))
      (Mealy.partyInputs e.input.1 xs)).2 := by
  rw [← (Mealy.party_exec (Process.step P) (fun k => Process.start (timeouts k)) xs
    e.input.1).2]
  exact List.mem_map.mpr ⟨e, List.mem_filter.mpr ⟨he, by simp⟩, rfl⟩

/-- A session that a step of the network returns comes from the exchange of that step. -/
theorem origin_of_step {e : NetworkEntry P ι} (he : e ∈ (network P timeouts xs).2) {i : ℕ}
    (hi : e.output.handle = some i) :
    ∃ o, e.input.2.origin = some o ∧ origin_of xs (e.input.1, i) = some o :=
  handle_origin (timeouts e.input.1) (Mealy.partyInputs e.input.1 xs) _ (mem_party_log he) i hi

/-- Where an accepted session comes from. -/
theorem origin_of_accepted {b : ι × ℕ} {local_kem : HybridKem P}
    {encapsulation : HybridEncapsulation} {secrets : SharedSecrets}
    (hsecrets : local_kem.peer_secrets encapsulation = .ok secrets)
    (h : ∃ e ∈ (network P timeouts xs).2, accepted_at b local_kem encapsulation e) :
    origin_of xs b = some ⟨.Receiver, secrets⟩ := by
  obtain ⟨⟨w, ⟨k, call⟩, reply⟩, he, hat⟩ := h
  unfold accepted_at at hat
  split at hat
  · rename_i hcall hreply
    simp only at hcall hreply
    subst hcall hreply
    simp only [decide_eq_true_eq] at hat
    obtain ⟨rfl, rfl, rfl⟩ := hat
    obtain ⟨o, ho, hof⟩ := origin_of_step he rfl
    simp only [TransportCall.origin, hsecrets, Option.some.injEq] at ho
    rw [hof, ho]
  · exact absurd hat (by decide)

/-- Where an established session comes from: its secrets are those the receiver of its
encapsulation recovers. -/
theorem origin_of_established (hdh : P.DhCommutes) (hkem : P.MlKemCorrect) {a : ι × ℕ}
    {local_kem : HybridKem P} {encapsulation : HybridEncapsulation} {secrets : SharedSecrets}
    (hsecrets : local_kem.peer_secrets encapsulation = .ok secrets)
    (h : ∃ e ∈ (network P timeouts xs).2,
      established_at a local_kem.local_public encapsulation e) :
    origin_of xs a = some ⟨.Sender, secrets⟩ := by
  obtain ⟨⟨w, ⟨k, call⟩, reply⟩, he, hat⟩ := h
  unfold established_at at hat
  split at hat
  · rename_i kem remote draws session_id now session enc hcall hreply
    simp only at hcall hreply
    subst hcall hreply
    simp only [decide_eq_true_eq] at hat
    obtain ⟨rfl, rfl, rfl⟩ := hat
    obtain ⟨o, ho, hof⟩ := origin_of_step he rfl
    -- the call returned, so its key exchange succeeded, with the secrets `sent`
    have hout := Mealy.exec_output _ _ _ _ (mem_party_log he)
    simp only [Mealy.localEntry, Process.step] at hout
    cases hsent : HybridKem.encapsulation_secrets P local_kem.local_public draws with
    | error e =>
        rw [establish_session_error hsent] at hout
        cases hout
    | ok r =>
        obtain ⟨enc', sent⟩ := r
        rw [establish_session_ok hsent] at hout
        cases hout
        simp only [TransportCall.origin, hsent, Option.some.injEq] at ho
        rw [hof, ← ho, peer_secrets_eq hdh hkem hsent hsecrets]
  · exact absurd hat (by decide)

end Exchange

/-! ## Channel safety

`direction_safety` is one direction, with the assumption it needs: that the secrets were used
once on the sending side. `channel_safety` is both. For the direction from `a` the assumption
is about `establish_session`, which draws new secrets; for the direction back it is about
`accept_session`, and there the source does not provide it. -/

theorem count_side_secrets (side : Side) (secrets : SharedSecrets) (os : List Origin) :
    (side_secrets side os).count secrets = os.count ⟨side, secrets⟩ := by
  induction os with
  | nil => rfl
  | cons o os ih =>
      obtain ⟨s, t⟩ := o
      rw [side_secrets, List.filter_cons, List.count_cons]
      rw [side_secrets] at ih
      by_cases hs : s = side
      · subst hs
        simp [List.count_cons, ih]
      · simp [hs, ih]

/-- One direction: the session `y` that receives under the key of `side` has accepted a
prefix of what the session `x` of that side has sent. -/
theorem direction_safety {timeouts : ι → UInt64} {xs : List (ι × TransportCall P)}
    (hsha : ShaInjective P (network_calls xs)) (hideal : IdealAead (network P timeouts xs).2)
    {secrets : SharedSecrets} {side : Side} {x y : ι × ℕ}
    (honce : (side_secrets side (origins (network_calls xs))).count secrets ≤ 1)
    (hx : origin_of xs x = some ⟨side, secrets⟩)
    (hy : origin_of xs y = some ⟨side.other, secrets⟩) :
    decrypted_on y (network P timeouts xs).2 <+: encrypted_on x (network P timeouts xs).2 := by
  have htracks := tracks_exec timeouts xs
  rw [count_side_secrets] at honce
  have hpre := received_prefix htracks.well_keyed (authentic_exec timeouts xs hideal)
    (a := x) (b := y) (k := derived_key P secrets side) ?_ ?_
  · rw [decrypted_on_eq, encrypted_on_eq]
    exact hpre.map _
  · -- only `x` sends under the key, because only `x` comes from this side of the exchange
    intro h s hs hk
    rw [htracks.view_eq] at hs
    obtain ⟨o, ho, hsend, -⟩ := session_origin hs
    rw [hsend, Origin.send_key] at hk
    obtain ⟨hsecrets, hside⟩ := derived_key_inj hsha (origin_of_mem ho) (origin_of_mem hx) hk
    rw [show o = ⟨side, secrets⟩ from origin_ext hsecrets hside] at ho
    exact origin_of_once honce ho hx
  · -- `y` is on the other side, so it receives under the key
    intro s hs
    rw [htracks.view_eq] at hs
    obtain ⟨o, ho, -, hrecv⟩ := session_origin hs
    have hoy : o = ⟨side.other, secrets⟩ := Option.some.inj (ho.symm.trans hy)
    rw [hrecv, hoy, Origin.recv_key]
    cases side <;> rfl

/-- **Channel safety.** In a run in which the secrets of an exchange are drawn by one
`establish_session`, what `b` has accepted is a prefix of what `a` has sent, whatever
`accept_session` calls were made. If besides they are recovered by one `accept_session`, what
`a` has accepted is a prefix of what `b` has sent: a second session with these secrets would
send under the key of `b`. -/
theorem channel_safety (hdh : P.DhCommutes) (hkem : P.MlKemCorrect) (timeouts : ι → UInt64)
    (xs : List (ι × TransportCall P)) (hsha : ShaInjective P (network_calls xs))
    (hideal : IdealAead (network P timeouts xs).2) (a b : ι × ℕ) (local_kem : HybridKem P)
    (encapsulation : HybridEncapsulation) (secrets : SharedSecrets)
    (hestablished : ∃ e ∈ (network P timeouts xs).2,
      established_at a local_kem.local_public encapsulation e)
    (haccepted : ∃ e ∈ (network P timeouts xs).2, accepted_at b local_kem encapsulation e)
    (hsecrets : local_kem.peer_secrets encapsulation = .ok secrets)
    (hsender : (established_secrets (network_calls xs)).count secrets ≤ 1) :
    decrypted_on b (network P timeouts xs).2 <+: encrypted_on a (network P timeouts xs).2 ∧
      ((accepted_secrets (network_calls xs)).count secrets ≤ 1 →
        decrypted_on a (network P timeouts xs).2 <+:
          encrypted_on b (network P timeouts xs).2) := by
  have ha := origin_of_established hdh hkem hsecrets hestablished
  have hb := origin_of_accepted hsecrets haccepted
  refine ⟨direction_safety hsha hideal hsender ha hb, ?_⟩
  intro hreceiver
  exact direction_safety hsha hideal hreceiver hb ha

/-- A run of a sender (`true`) and a receiver (`false`): two exchanges, one frame each
way on the first, a frame of the second injected into it and a frame reflected. -/
def exchange_run : List (Bool × TransportCall .transparent) :=
  [(true, establish 1), (true, establish 2), (false, accept (encapsulation 1)),
    (true, .encrypt_frame 0 (telemetry 1 [7]) 0), (true, .encrypt_frame 1 (telemetry 2 [8]) 0),
    (false, .decrypt_frame 0 (wire 2 .Sender 0 (telemetry 2 [8])) 0),
    (false, .decrypt_frame 0 (wire 1 .Sender 0 (telemetry 1 [7])) 0),
    (false, .encrypt_frame 0 (telemetry 3 [9]) 0),
    (true, .decrypt_frame 0 (wire 1 .Sender 0 (telemetry 1 [7])) 0),
    (true, .decrypt_frame 0 (wire 1 .Receiver 0 (telemetry 3 [9])) 0)]

theorem channel_safety_exchange_run :
    decrypted_on (false, 0) (network .transparent (fun _ => 300) exchange_run).2 <+:
        encrypted_on (true, 0) (network .transparent (fun _ => 300) exchange_run).2 ∧
      decrypted_on (true, 0) (network .transparent (fun _ => 300) exchange_run).2 <+:
        encrypted_on (false, 0) (network .transparent (fun _ => 300) exchange_run).2 := by
  obtain ⟨hto_receiver, hto_sender⟩ :=
    channel_safety Primitives.transparent_dh Primitives.transparent_mlkem (fun _ => 300)
      exchange_run (by decide +kernel) (by decide +kernel) (true, 0) (false, 0) receiver_kem
      (encapsulation 1) (exchange_secrets 1) (by decide +kernel) (by decide +kernel)
      (by decide +kernel) (by decide +kernel)
  exact ⟨hto_receiver, hto_sender (by decide +kernel)⟩

/-- The call is `accept_session` on this encapsulation. -/
def presents (enc : HybridEncapsulation) : TransportCall P → Bool
  | .accept_session _ encapsulation _ _ => encapsulation = enc
  | _ => false

/-- An encapsulation with the top bit of its X25519 key changed. -/
def flip_top_bit (enc : HybridEncapsulation) : HybridEncapsulation :=
  { enc with x25519_ephemeral_pubkey := Transparent.toggle_top_bit enc.x25519_ephemeral_pubkey }

/-- A run in which the receiver also accepts the changed encapsulation and sends on the
session this makes. -/
def malleated_run : List (Bool × TransportCall .transparent) :=
  [(true, establish 1), (false, accept (encapsulation 1)),
    (false, accept (flip_top_bit (encapsulation 1))),
    (false, .encrypt_frame 1 (telemetry 3 [9]) 0),
    (true, .decrypt_frame 0 (wire 1 .Receiver 0 (telemetry 3 [9])) 0)]

/-- One `accept_session` call on the encapsulation is not enough: `a` accepts a frame that `b`
has not sent. It comes from the session of another encapsulation, with the keys of `b`. -/
theorem malleated_run_breaks_channel :
    Primitives.transparent.DhCommutes ∧ Primitives.transparent.MlKemCorrect ∧
      ShaInjective .transparent (network_calls malleated_run) ∧
      IdealAead (network .transparent (fun _ => 300) malleated_run).2 ∧
      (∃ e ∈ (network .transparent (fun _ => 300) malleated_run).2,
        established_at (true, 0) receiver_kem.local_public (encapsulation 1) e) ∧
      (∃ e ∈ (network .transparent (fun _ => 300) malleated_run).2,
        accepted_at (false, 0) receiver_kem (encapsulation 1) e) ∧
      (network_calls malleated_run).countP (presents (encapsulation 1)) = 1 ∧
      ¬ decrypted_on (true, 0) (network .transparent (fun _ => 300) malleated_run).2 <+:
        encrypted_on (false, 0) (network .transparent (fun _ => 300) malleated_run).2 := by
  refine ⟨Primitives.transparent_dh, Primitives.transparent_mlkem, ?_⟩
  decide +kernel

end SovereignEdgeTee
