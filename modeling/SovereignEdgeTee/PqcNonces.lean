/-
The nonce discipline of a process: no key and nonce are used for two encryptions.

Within a session the counter sees to it. Across sessions it rests on the send keys
being different, and a send key is a function of the shared secrets of the key
exchange and of the side taken. `establish_session` draws its secrets afresh. But
`accept_session` recovers them from an encapsulation its caller presents, and it
does not remember those it has accepted: an encapsulation presented twice makes two
sessions with one send key and both counters at zero.
-/
import SovereignEdgeTee.PqcNetwork
import SovereignEdgeTee.PqcTransparent

set_option autoImplicit false

namespace SovereignEdgeTee

open CounterChannel (SendKeysUnique sealings sealings_nodup)
open Transparent (establish accept encapsulation telemetry)

variable {P : Primitives}

/-- The keys and nonces of the successful encryptions of a process, newest first. -/
def key_nonces (log : List (TransportEntry P)) : List (AesKey × List UInt8) :=
  (log.filterMap encryption).map fun u => (u.key, u.nonce)

theorem partyInputs_one (calls : List (TransportCall P)) :
    Mealy.partyInputs () (calls.map (Prod.mk ())) = calls := by
  simp [Mealy.partyInputs, Function.comp_def]

theorem network_calls_one (calls : List (TransportCall P)) :
    network_calls (calls.map (Prod.mk ())) = calls := by
  simp [network_calls, Function.comp_def]

/-- A process is a network of one. -/
theorem network_of_one (session_timeout_secs : UInt64) (calls : List (TransportCall P)) :
    (Mealy.exec (Process.step P) (Process.start session_timeout_secs) calls).2 =
      (network P (fun _ : Unit => session_timeout_secs) (calls.map (Prod.mk ()))).2.map
        Mealy.localEntry := by
  have hparty := (Mealy.party_exec (Process.step P)
    (fun _ : Unit => Process.start session_timeout_secs) (calls.map (Prod.mk ())) ()).2
  rw [partyInputs_one, Mealy.partyLog] at hparty
  rw [← hparty, network]
  simp

/-- When the key exchanges of a process repeat on neither side, no two of its sessions
send under one key. -/
theorem send_keys_unique (session_timeout_secs : UInt64) {calls : List (TransportCall P)}
    (hsha : ShaInjective P calls) (hestablish : (established_secrets calls).Nodup)
    (haccept : (accepted_secrets calls).Nodup) :
    SendKeysUnique (network_view
      (network P (fun _ : Unit => session_timeout_secs) (calls.map (Prod.mk ()))).1) := by
  rw [← network_calls_one calls] at hsha
  rw [← partyInputs_one calls] at hestablish haccept
  rintro ⟨⟨⟩, i⟩ ⟨⟨⟩, j⟩ s s' hs hs' hk
  -- equal keys mean the same exchange on the same side, hence the same handle
  obtain ⟨o, ho, ho'⟩ := origin_of_send_key hsha hs hs' hk
  rw [origin_of_inj hestablish haccept ho ho']

/-- **Nonce discipline.** As long as no `accept_session` recovers secrets that an
earlier one has recovered, no key and nonce are used for two encryptions of a process. -/
theorem key_nonces_nodup (P : Primitives) (session_timeout_secs : UInt64)
    (calls : List (TransportCall P)) (hsha : ShaInjective P calls)
    (hestablish : (established_secrets calls).Nodup)
    (haccept : (accepted_secrets calls).Nodup) :
    (key_nonces (Mealy.exec (Process.step P) (Process.start session_timeout_secs) calls).2).Nodup
    := by
  have htracks := tracks_exec (P := P) (fun _ : Unit => session_timeout_secs)
    (calls.map (Prod.mk ()))
  have hseal := sealings_nodup htracks.well_keyed (by
    rw [htracks.view_eq]
    exact send_keys_unique session_timeout_secs hsha hestablish haccept)
  have huses := htracks.encryptions_eq
  rw [encryptions] at huses
  rw [key_nonces, network_of_one, List.filterMap_map]
  change (((network P _ _).2.filterMap fun e => encryption (Mealy.localEntry e)).map _).Nodup
  rw [huses, List.map_map]
  -- below the limit a nonce determines its counter, so distinct pairs stay distinct
  have hpair : ((fun u : AeadUse => (u.key, u.nonce)) ∘ aead_use) =
      (fun x : AesKey × ℕ => (x.1, nonce_bytes x.2)) ∘
        fun x : AesKey × ℕ × SealedFrame => (x.1, x.2.1) := rfl
  rw [hpair, ← List.map_map]
  refine hseal.map_on ?_
  intro x hx y hy hxy
  obtain ⟨a, ha, rfl⟩ := List.mem_map.mp hx
  obtain ⟨b, hb, rfl⟩ := List.mem_map.mp hy
  rw [Prod.mk.injEq] at hxy
  rw [hxy.1, nonce_bytes_inj (htracks.below_limit a ha) (htracks.below_limit b hb) hxy.2]

/-- A process that has established a session and accepted two, and encrypts on all. -/
theorem key_nonces_nodup_three_sessions :
    (key_nonces (Mealy.exec (Process.step .transparent) (Process.start 300)
      [establish 1, accept (encapsulation 2), .encrypt_frame 0 (telemetry 1 [7]) 0,
        accept (encapsulation 3), .encrypt_frame 1 (telemetry 2 [7]) 0,
        .encrypt_frame 2 (telemetry 3 [7]) 0, .encrypt_frame 0 (telemetry 4 [7]) 0]).2).Nodup :=
  key_nonces_nodup .transparent 300 _ (by decide +kernel) (by decide +kernel) (by decide +kernel)

/-- One encapsulation presented twice: the first frames of the two sessions are
encrypted under the same key and nonce. -/
theorem replayed_encapsulation_reuses_nonce :
    let calls : List (TransportCall .transparent) :=
      [accept (encapsulation 1), accept (encapsulation 1),
        .encrypt_frame 0 (telemetry 1 [7]) 0, .encrypt_frame 1 (telemetry 2 [8]) 0]
    ShaInjective .transparent calls ∧ (established_secrets calls).Nodup ∧
      ¬ (key_nonces (Mealy.exec (Process.step .transparent) (Process.start 300) calls).2).Nodup
    := by
  decide +kernel

end SovereignEdgeTee
