/-
A receiver behind a network that does what it likes.

The network loses frames, repeats them, reorders them and adds its own. What it cannot do is
seal: nothing opens under the key of the exchange and a counter value but what the sender
sealed under them (`Unforged`). A frame that does not open moves no counter. So the receiver
waits for the frame of its counter and lets everything else pass, which is `InOrder.receive`,
and what that receiver ends up with is what this one does.
-/
import SovereignEdgeTee.InOrder
import SovereignEdgeTee.PqcLoss

set_option autoImplicit false

namespace SovereignEdgeTee

open Transparent (draws encapsulation exchange_secrets receiver_kem sender_kem telemetry wire)

variable {P : Primitives}

/-! ## The sessions of an exchange

What the later theorems need of two sessions of one exchange: their keys are crossed and their
counters are at zero. It is proved once from the two calls, and `Exchanged` names its premise. -/

/-- Each session opens under the key the other seals under, and no counter has moved. -/
structure Crossed (sender receiver : PqcSession) : Prop where
  recv_key : receiver.recv_key = sender.send_key
  send_key : sender.recv_key = receiver.send_key
  unused : sender.send_nonce = 0 ∧ sender.recv_nonce = 0 ∧ receiver.send_nonce = 0 ∧
    receiver.recv_nonce = 0

section Exchange

variable {p p' q q' : Process} {sender_kem receiver_kem : HybridKem P} {draws : EncapsulationDraws}
  {session_id session_id' now now' : UInt64} {a b : ℕ} {encapsulation : HybridEncapsulation}
  {sender receiver : PqcSession}

/-- Both ends of an exchange have the same secrets, so their keys are the same, crosswise. -/
theorem crossed_of_exchange (hdh : P.DhCommutes) (hkem : P.MlKemCorrect)
    (hestablish : p.establish_session sender_kem receiver_kem.local_public draws session_id now =
      (.ok (a, encapsulation), p')) (ha : p'.heap[a]? = some sender)
    (haccept : q.accept_session receiver_kem encapsulation session_id' now' = (.ok b, q'))
    (hb : q'.heap[b]? = some receiver) : Crossed sender receiver := by
  cases hsent : HybridKem.encapsulation_secrets P receiver_kem.local_public draws with
  | error e =>
      rw [establish_session_error hsent] at hestablish
      cases hestablish
  | ok r =>
      obtain ⟨enc, sent⟩ := r
      rw [establish_session_ok hsent] at hestablish
      cases hestablish
      cases hreceived : receiver_kem.peer_secrets encapsulation with
      | error e =>
          rw [accept_session_error hreceived] at haccept
          cases haccept
      | ok received =>
          rw [accept_session_ok hreceived] at haccept
          cases haccept
          rw [peer_secrets_eq hdh hkem hsent hreceived] at hb
          obtain rfl := added_session ha
          obtain rfl := added_session hb
          exact ⟨rfl, rfl, rfl, rfl, rfl, rfl⟩

/-- The sessions of one key exchange: one process established its session towards the key of
the other, and the other accepted the encapsulation. -/
inductive Exchanged (P : Primitives) : PqcSession → PqcSession → Prop where
  | intro {p p' q q' : Process} {sender_kem receiver_kem : HybridKem P}
      {draws : EncapsulationDraws} {session_id session_id' now now' : UInt64} {a b : ℕ}
      {encapsulation : HybridEncapsulation} {sender receiver : PqcSession}
      (hestablish : p.establish_session sender_kem receiver_kem.local_public draws session_id
        now = (.ok (a, encapsulation), p')) (ha : p'.heap[a]? = some sender)
      (haccept : q.accept_session receiver_kem encapsulation session_id' now' = (.ok b, q'))
      (hb : q'.heap[b]? = some receiver) : Exchanged P sender receiver

theorem Exchanged.crossed (h : Exchanged P sender receiver) (hdh : P.DhCommutes)
    (hkem : P.MlKemCorrect) : Crossed sender receiver := by
  cases h with
  | intro hestablish ha haccept hb =>
      exact crossed_of_exchange hdh hkem hestablish ha haccept hb

end Exchange

/-! ## Arrivals

The receiver is compared with `InOrder.receive`, which knows no cryptography. A frame is what
the receiver reads of it (`body`), and `Unforged` says that under the `k`-th counter value
nothing opens but the `k`-th frame. With that a frame either is the one that is waited for or
fails, and a failed call leaves the session as it was. -/

/-- What the receiver reads of a frame. -/
def EncryptedFrame.body (encrypted : EncryptedFrame) : List UInt8 × UInt64 :=
  (encrypted.ciphertext, encrypted.frame_id)

/-- Of the arrivals nothing opens under the key and the `k`-th counter value from `n` on but
the `k`-th frame that was sealed. -/
def Unforged (P : Primitives) (key : AesKey) (n : ℕ) (encrypted arrivals : List EncryptedFrame) :
    Prop :=
  ∀ arrival ∈ arrivals, ∀ k opened, n + k < 2 ^ 64 →
    P.aes_decrypt key (nonce_bytes (n + k)) arrival.ciphertext (frame_aad arrival.frame_id) =
      .ok opened →
    ∃ original, encrypted[k]? = some original ∧ original.body = arrival.body

/-- What the receiver expects: the bodies of the frames, and the payloads they open to. -/
def expected (pairs : List (TelemetryFrame × EncryptedFrame)) :
    List ((List UInt8 × UInt64) × List UInt8) :=
  pairs.map fun x => (x.2.body, x.1.payload)

/-- A frame that is not the one of the receiver's counter changes nothing. -/
theorem decrypt_frame_unexpected {sess : PqcSession} (now : UInt64) {arrival : EncryptedFrame}
    {encrypted arrivals : List EncryptedFrame}
    (hunforged : Unforged P sess.recv_key sess.recv_nonce encrypted (arrival :: arrivals))
    (hne : ∀ original, encrypted[0]? = some original → original.body ≠ arrival.body) :
    ∃ e, sess.decrypt_frame P arrival now = (.error e, sess) := by
  obtain ⟨opened, hlimit, hopens, -⟩ | herror :=
    decrypt_spec (P := P) sess arrival.ciphertext (frame_aad arrival.frame_id) now
  · obtain ⟨original, horiginal, hbody⟩ :=
      hunforged arrival List.mem_cons_self 0 opened hlimit hopens
    exact absurd hbody (hne original horiginal)
  · exact herror

theorem Unforged.tail {key : AesKey} {n : ℕ} {encrypted : List EncryptedFrame}
    {arrival : EncryptedFrame} {arrivals : List EncryptedFrame}
    (h : Unforged P key n encrypted (arrival :: arrivals)) : Unforged P key n encrypted arrivals :=
  fun later hlater => h later (List.mem_cons_of_mem arrival hlater)

/-- With the first frame behind it, the receiver expects the others. -/
theorem Unforged.advance {key : AesKey} {n : ℕ} {first : EncryptedFrame}
    {encrypted arrivals : List EncryptedFrame}
    (h : Unforged P key n (first :: encrypted) arrivals) :
    Unforged P key (n + 1) encrypted arrivals := by
  intro arrival harrival k opened hlimit hopens
  have hsum : n + 1 + k = n + (k + 1) := by omega
  rw [hsum] at hlimit hopens
  exact h arrival harrival (k + 1) opened hlimit hopens

/-- **The receiver takes the frames in order.** The induction is on the arrivals. -/
theorem decrypt_frames_in_order (haead : P.AeadCorrect) {sess : PqcSession} (clock : ℕ → UInt64)
    {pairs : List (TelemetryFrame × EncryptedFrame)} {arrivals : List EncryptedFrame}
    (hsealed : SealedFrom P sess.recv_key sess.recv_nonce pairs)
    (hunforged : Unforged P sess.recv_key sess.recv_nonce (pairs.map Prod.snd) arrivals) :
    (decrypt_frames P sess clock arrivals).map Except.toOption =
      InOrder.receive (expected pairs) (arrivals.map EncryptedFrame.body) := by
  induction arrivals generalizing sess clock pairs with
  | nil =>
      rw [List.map_nil, InOrder.receive]
      rfl
  | cons arrival arrivals ih =>
      rw [decrypt_frames, List.map_cons, List.map_cons]
      cases pairs with
      | nil =>
          -- nothing more was sealed, so nothing more opens
          obtain ⟨e, herror⟩ := decrypt_frame_unexpected (clock 0) hunforged
            (fun original hnone => absurd hnone (by simp))
          rw [herror, ih _ hsealed hunforged.tail]
          rfl
      | cons x pairs =>
          obtain ⟨hlimit, hid, haes⟩ := hsealed.1
          rw [expected, List.map_cons, InOrder.receive]
          by_cases hbody : arrival.body = x.2.body
          · -- the frame that is waited for, as far as the receiver reads it
            obtain ⟨hciphertext, hframe_id⟩ := Prod.mk.inj hbody
            rw [← hciphertext] at haes
            rw [if_pos hbody, decrypt_frame_sealed haead hlimit (hframe_id.trans hid) haes]
            exact congrArg _ (ih _ hsealed.2 hunforged.tail.advance)
          · -- anything else: the counter stays, and so does the frame that is waited for
            obtain ⟨e, herror⟩ := decrypt_frame_unexpected (clock 0) hunforged
              (fun original hfirst => by
                rw [← Option.some.inj hfirst]
                exact Ne.symm hbody)
            rw [if_neg hbody, herror, ih _ hsealed hunforged.tail]
            rfl

/-! ## Whole runs

A network that adds nothing of its own cannot forge, if the cipher binds the nonce: a frame
that was sealed under one counter does not open under another. Then `in_order_delivery`
carries the two theorems of `InOrder` over to the session. -/

/-- A network that loses, repeats and reorders the frames of the sender, and adds none. -/
theorem unforged_of_sealed (hbind : P.NonceBinding) {key : AesKey} {n : ℕ}
    {pairs : List (TelemetryFrame × EncryptedFrame)} (hsealed : SealedFrom P key n pairs)
    {arrivals : List EncryptedFrame} (hown : ∀ arrival ∈ arrivals, arrival ∈ pairs.map Prod.snd) :
    Unforged P key n (pairs.map Prod.snd) arrivals := by
  intro arrival harrival k opened hlimit hopens
  have hmem := hown arrival harrival
  clear hown harrival
  -- the frame opens under the counter it was sealed under, which is its place
  induction pairs generalizing n k with
  | nil => exact absurd hmem List.not_mem_nil
  | cons x pairs ih =>
      obtain ⟨⟨hn, hid, haes⟩, hrest⟩ := hsealed
      cases k with
      | zero =>
          refine ⟨x.2, rfl, ?_⟩
          rcases List.mem_cons.mp hmem with rfl | hlater
          · rfl
          · -- a later frame was sealed under a later counter, and opens under no other
            obtain ⟨y, hy, rfl⟩ := List.mem_map.mp hlater
            obtain ⟨m, hm, hm', hyid, hyaes⟩ := hrest.later hy
            rw [hyid] at hopens
            have hsame := hbind _ _ _ _ _ _ _ hm' hlimit hyaes hopens
            omega
      | succ k =>
          have hsum : n + (k + 1) = n + 1 + k := by omega
          rw [hsum] at hlimit hopens
          rcases List.mem_cons.mp hmem with rfl | hlater
          · -- neither does the first frame open under a later counter
            rw [hid] at hopens
            have hsame := hbind _ _ _ _ _ _ _ hn hlimit haes hopens
            omega
          · exact ih hrest k hlimit hopens hlater

/-- What the receiver expects of a list of frames and what was made of them. -/
theorem expected_zip {frames : List TelemetryFrame} {encrypted : List EncryptedFrame}
    (hlength : encrypted.length = frames.length) :
    (expected (frames.zip encrypted)).map Prod.snd = frames.map TelemetryFrame.payload ∧
      (expected (frames.zip encrypted)).map Prod.fst = encrypted.map EncryptedFrame.body := by
  rw [expected, List.map_map, List.map_map]
  constructor
  · show (frames.zip encrypted).map (TelemetryFrame.payload ∘ Prod.fst) = _
    rw [← List.map_map, List.map_fst_zip hlength.ge]
  · show (frames.zip encrypted).map (EncryptedFrame.body ∘ Prod.snd) = _
    rw [← List.map_map, List.map_snd_zip hlength.le]

/-- Every call of `encrypt_frame` has one outcome. -/
theorem length_encrypt_frames (sess : PqcSession) (clock : ℕ → UInt64)
    (frames : List TelemetryFrame) :
    (encrypt_frames P sess clock frames).length = frames.length := by
  induction frames generalizing sess clock with
  | nil => rfl
  | cons frame frames ih => rw [encrypt_frames, List.length_cons, ih, List.length_cons]

/-- **Delivery in order, whatever arrives.** A sender seals frames, and anything arrives at
the session that accepted its exchange, in any order and number, as long as it is not forged.
Then what the receiver opens is a beginning of the payloads that were sealed, without a gap,
and it opens the first `k` of them just when their frames arrive in order, whatever arrives
before, between and after them. -/
theorem in_order_delivery (hdh : P.DhCommutes) (hkem : P.MlKemCorrect) (haead : P.AeadCorrect)
    {sender receiver : PqcSession} (hexchanged : Exchanged P sender receiver)
    (clock clock' : ℕ → UInt64) (frames : List TelemetryFrame) (encrypted : List EncryptedFrame)
    (hencrypted : encrypt_frames P sender clock frames = encrypted.map .ok)
    (arrivals : List EncryptedFrame) (hunforged : Unforged P sender.send_key 0 encrypted arrivals) :
    let opened := (decrypt_frames P receiver clock' arrivals).filterMap Except.toOption
    opened <+: frames.map TelemetryFrame.payload ∧
      ∀ k ≤ frames.length,
        (k ≤ opened.length ↔
          ((encrypted.take k).map EncryptedFrame.body).Sublist
            (arrivals.map EncryptedFrame.body)) := by
  intro opened
  have hcrossed := hexchanged.crossed hdh hkem
  obtain ⟨hsend_nonce, -, -, hrecv_nonce⟩ := hcrossed.unused
  have hlength : encrypted.length = frames.length := by
    rw [← length_encrypt_frames (P := P) sender clock frames, hencrypted, List.length_map]
  obtain ⟨hpayloads, hbodies⟩ := expected_zip hlength
  have hsealed := encrypt_frames_sealed hencrypted
  -- what the sender sealed, as the receiver opens it
  rw [← hcrossed.recv_key, hsend_nonce, ← hrecv_nonce] at hsealed
  have hopened : opened = InOrder.taken (expected (frames.zip encrypted))
      (arrivals.map EncryptedFrame.body) := by
    have htail : (frames.zip encrypted).map Prod.snd = encrypted := List.map_snd_zip hlength.le
    rw [← hcrossed.recv_key, ← hrecv_nonce, ← htail] at hunforged
    rw [InOrder.taken, ← decrypt_frames_in_order haead clock' hsealed hunforged,
      List.filterMap_map]
    rfl
  rw [hopened]
  constructor
  · rw [← hpayloads]
    exact InOrder.taken_prefix
  · intro k hk
    have hle : k ≤ (expected (frames.zip encrypted)).length := by
      rw [expected, List.length_map, List.length_zip, hlength, min_self]
      exact hk
    rw [InOrder.le_length_taken_iff hle, List.map_take, hbodies, ← List.map_take]

/-- The sessions of the first exchange. -/
theorem exchanged_transparent : Exchanged .transparent sender_session receiver_session := by
  have hestablish : (Process.start 300).establish_session sender_kem receiver_kem.local_public
      (draws 1) 1 0 = (.ok (0, encapsulation 1), (Process.start 300).add_session sender_session) :=
    establish_session_ok (by decide +kernel)
  have haccept : (Process.start 300).accept_session receiver_kem (encapsulation 1) 2 0 =
      (.ok 0, (Process.start 300).add_session receiver_session) :=
    accept_session_ok (by decide +kernel)
  exact .intro hestablish rfl haccept rfl

/-- Two frames that arrive the wrong way round and then again: both are opened. -/
theorem in_order_delivery_repeated :
    2 ≤ ((decrypt_frames .transparent receiver_session (fun _ => 0)
      [wire 1 .Sender 1 (telemetry 2 [8]), wire 1 .Sender 0 (telemetry 1 [7]),
        wire 1 .Sender 0 (telemetry 1 [7]), wire 1 .Sender 1 (telemetry 2 [8])]).filterMap
      Except.toOption).length := by
  have hencrypted : encrypt_frames .transparent sender_session (fun _ => 0)
      [telemetry 1 [7], telemetry 2 [8]] =
      [wire 1 .Sender 0 (telemetry 1 [7]), wire 1 .Sender 1 (telemetry 2 [8])].map .ok := by
    decide +kernel
  have hown : ∀ arrival ∈ [wire 1 .Sender 1 (telemetry 2 [8]), wire 1 .Sender 0 (telemetry 1 [7]),
      wire 1 .Sender 0 (telemetry 1 [7]), wire 1 .Sender 1 (telemetry 2 [8])],
      arrival ∈ ([telemetry 1 [7], telemetry 2 [8]].zip
        [wire 1 .Sender 0 (telemetry 1 [7]), wire 1 .Sender 1 (telemetry 2 [8])]).map Prod.snd := by
    decide +kernel
  have hunforged := unforged_of_sealed transparent_nonce_binding
    (encrypt_frames_sealed hencrypted) hown
  have hdelivery := in_order_delivery Primitives.transparent_dh Primitives.transparent_mlkem
    Primitives.transparent_aead exchanged_transparent (fun _ => 0) (fun _ => 0) _ _ hencrypted _
    hunforged
  exact (hdelivery.2 2 (by decide)).mpr (by decide +kernel)

end SovereignEdgeTee
