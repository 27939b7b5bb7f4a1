/-
Replays at a receiving process.

The recorded frames and encapsulations of a network may be presented to one process
again and again, in any order and on any of its sessions. A session rejects a frame it
has opened, because its counter has moved on. Another session rejects it because its
key is another one. So a process opens no frame more often than it was encrypted,
as long as its `accept_session` calls recover different secrets. An encapsulation
accepted twice makes two sessions that each open the frames of the exchange.
-/
import SovereignEdgeTee.PqcNetwork
import SovereignEdgeTee.PqcTransparent

set_option autoImplicit false

namespace SovereignEdgeTee

open CounterChannel (RecvKeysUnique recvs_le_sends)
open Transparent (establish accept encapsulation telemetry wire)

variable {P : Primitives} {ι : Type*} [DecidableEq ι]

/-- The frames encrypted anywhere in the network. -/
def encrypted_frames (log : List (NetworkEntry P ι)) : List SealedFrame :=
  (log.filterMap sealed_on).map Prod.snd

/-- The frames decrypted on the sessions of process `r`. -/
def decrypted_frames (r : ι) (log : List (NetworkEntry P ι)) : List SealedFrame :=
  ((log.filterMap opened_on).filter fun y => y.1.1 = r).map Prod.snd

/-- When the key exchanges of a process repeat on neither side, no two of its sessions
receive under one key. -/
theorem recv_keys_unique (timeouts : ι → UInt64) {xs : List (ι × TransportCall P)} {r : ι}
    (hsha : ShaInjective P (network_calls xs))
    (hestablish : (established_secrets (Mealy.partyInputs r xs)).Nodup)
    (haccept : (accepted_secrets (Mealy.partyInputs r xs)).Nodup) :
    RecvKeysUnique (fun x : ι × ℕ => x.1 = r) (network_view (network P timeouts xs).1) := by
  rintro ⟨k, i⟩ ⟨l, j⟩ s s' hk hl hs hs' hkey
  obtain rfl : k = r := of_decide_eq_true hk
  obtain rfl : l = k := of_decide_eq_true hl
  obtain ⟨o, ho, ho'⟩ := origin_of_recv_key hsha hs hs' hkey
  rw [origin_of_inj hestablish haccept ho ho']

/-- **No replay.** As long as the `accept_session` calls of a process recover different
secrets, it decrypts the frames that `p` picks out no more often, over all its
sessions, than they were encrypted in the network. -/
theorem decrypted_le_encrypted (timeouts : ι → UInt64) (xs : List (ι × TransportCall P))
    (r : ι) (hsha : ShaInjective P (network_calls xs))
    (hideal : IdealAead (network P timeouts xs).2)
    (hestablish : (established_secrets (Mealy.partyInputs r xs)).Nodup)
    (haccept : (accepted_secrets (Mealy.partyInputs r xs)).Nodup) (p : SealedFrame → Bool) :
    (decrypted_frames r (network P timeouts xs).2).countP p ≤
      (encrypted_frames (network P timeouts xs).2).countP p := by
  have htracks := tracks_exec timeouts xs
  have hkeys := recv_keys_unique timeouts hsha hestablish haccept
  rw [← htracks.view_eq] at hkeys
  have hle := recvs_le_sends htracks.well_keyed (authentic_exec timeouts xs hideal) hkeys p
  rw [sends_history, recvs_history] at hle
  exact hle

/-- A receiver (`false`) that has accepted two exchanges is given each frame on both. -/
def replay_run : List (Bool × TransportCall .transparent) :=
  [(true, establish 1), (false, accept (encapsulation 1)), (false, accept (encapsulation 2)),
    (true, .encrypt_frame 0 (telemetry 1 [7]) 0),
    (false, .decrypt_frame 1 (wire 1 .Sender 0 (telemetry 1 [7])) 0),
    (false, .decrypt_frame 0 (wire 1 .Sender 0 (telemetry 1 [7])) 0),
    (false, .decrypt_frame 0 (wire 1 .Sender 0 (telemetry 1 [7])) 0)]

theorem decrypted_le_encrypted_replay_run :
    (decrypted_frames false (network .transparent (fun _ => 300) replay_run).2).countP
        (fun m => m.frame_id = 1) ≤
      (encrypted_frames (network .transparent (fun _ => 300) replay_run).2).countP
        (fun m => m.frame_id = 1) :=
  decrypted_le_encrypted _ _ _ (by decide +kernel) (by decide +kernel) (by decide +kernel)
    (by decide +kernel) _

/-- The run of a receiver that accepts one encapsulation twice. -/
def reaccept_run : List (Bool × TransportCall .transparent) :=
  [(true, establish 1), (false, accept (encapsulation 1)), (false, accept (encapsulation 1)),
    (true, .encrypt_frame 0 (telemetry 1 [7]) 0),
    (false, .decrypt_frame 0 (wire 1 .Sender 0 (telemetry 1 [7])) 0),
    (false, .decrypt_frame 1 (wire 1 .Sender 0 (telemetry 1 [7])) 0)]

/-- A frame encrypted once is decrypted twice. -/
theorem reaccept_run_replays :
    ShaInjective .transparent (network_calls reaccept_run) ∧
      IdealAead (network .transparent (fun _ => 300) reaccept_run).2 ∧
      (encrypted_frames (network .transparent (fun _ => 300) reaccept_run).2).countP
        (fun m => m.frame_id = 1) = 1 ∧
      (decrypted_frames false (network .transparent (fun _ => 300) reaccept_run).2).countP
        (fun m => m.frame_id = 1) = 2 := by
  decide +kernel

end SovereignEdgeTee
