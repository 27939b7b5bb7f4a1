/-
Frames lost between the two sessions of an exchange.

The counter a frame was sealed under does not travel with it: the nonce of an
`EncryptedFrame` is left at zero and never read. The receiver opens under its own
counter, which moves only when it opens a frame. So it stays in step with the sender as
long as nothing is missing, and once a frame is lost it is behind for good. A list of
delivered frames is opened in full exactly when it is a prefix of what was sealed:
`delivery_succeeds_iff`.
-/
import SovereignEdgeTee.PqcSessions
import SovereignEdgeTee.PqcTransparent

set_option autoImplicit false

namespace SovereignEdgeTee

open Transparent (draws encapsulation exchange_secrets receiver_kem sender_kem tag telemetry wire)

variable {P : Primitives}

/-! ## Frames sealed and frames delivered

`encrypt_frames` and `decrypt_frames` are lists of calls on one session each. `SealedFrom` is
the spec of the first: the frames are sealed under consecutive counters. On the receiving side
a list without a gap is opened in full; and a list that is opened in full has no gap, since a
frame does not open under another counter than its own (`NonceBinding`). -/

/-- Successive calls of `encrypt_frame` on one session, the `k`-th at time `clock k`. -/
def encrypt_frames (P : Primitives) (sess : PqcSession) (clock : ℕ → UInt64) :
    List TelemetryFrame → List (Except PqcError EncryptedFrame)
  | [] => []
  | frame :: frames =>
    let r := sess.encrypt_frame P frame (clock 0)
    r.1 :: encrypt_frames P r.2 (fun k => clock (k + 1)) frames

/-- Successive calls of `decrypt_frame` on one session, the `k`-th at time `clock k`. -/
def decrypt_frames (P : Primitives) (sess : PqcSession) (clock : ℕ → UInt64) :
    List EncryptedFrame → List (Except PqcError (List UInt8))
  | [] => []
  | encrypted :: rest =>
    let r := sess.decrypt_frame P encrypted (clock 0)
    r.1 :: decrypt_frames P r.2 (fun k => clock (k + 1)) rest

/-- A ciphertext opens under no nonce but the one it was sealed under. In GCM the tag
is a hash of ciphertext and associated data, masked with the encryption of the nonce,
and encryption under one key never maps two nonces to the same block. -/
def Primitives.NonceBinding (P : Primitives) : Prop :=
  ∀ key m n msg associated_data ciphertext opened, m < 2 ^ 64 → n < 2 ^ 64 →
    P.aes_encrypt key (nonce_bytes m) msg associated_data = .ok ciphertext →
      P.aes_decrypt key (nonce_bytes n) ciphertext associated_data = .ok opened → m = n

/-- The frames are sealed under `key` and the counter values from `n` on. -/
def SealedFrom (P : Primitives) (key : AesKey) : ℕ → List (TelemetryFrame × EncryptedFrame) → Prop
  | _, [] => True
  | n, (frame, encrypted) :: rest =>
    (n < 2 ^ 64 ∧ encrypted.frame_id = frame.frame_id ∧
      P.aes_encrypt key (nonce_bytes n) frame.payload (frame_aad frame.frame_id) =
        .ok encrypted.ciphertext) ∧
    SealedFrom P key (n + 1) rest

/-- What `encrypt_frame` returns is sealed under the counter of its session. -/
theorem encrypt_frames_sealed {sess : PqcSession} {clock : ℕ → UInt64}
    {frames : List TelemetryFrame} {encrypted : List EncryptedFrame}
    (h : encrypt_frames P sess clock frames = encrypted.map .ok) :
    SealedFrom P sess.send_key sess.send_nonce (frames.zip encrypted) := by
  induction frames generalizing sess clock encrypted with
  | nil => trivial
  | cons frame frames ih =>
      cases encrypted with
      | nil => trivial
      | cons e encrypted =>
          rw [encrypt_frames, List.map_cons, List.cons.injEq] at h
          obtain ⟨hhead, htail⟩ := h
          obtain ⟨ciphertext, hlimit, haes, henc⟩ | ⟨err, henc⟩ :=
            encrypt_spec (P := P) sess frame.payload (frame_aad frame.frame_id) (clock 0)
          · rw [PqcSession.encrypt_frame, henc] at hhead htail
            obtain rfl := Except.ok.inj hhead
            exact ⟨⟨hlimit, rfl, haes⟩, ih htail⟩
          · rw [PqcSession.encrypt_frame, henc] at hhead
            cases hhead

/-- A frame sealed under a later counter value. -/
theorem SealedFrom.later {key : AesKey} {n : ℕ} {pairs : List (TelemetryFrame × EncryptedFrame)}
    (h : SealedFrom P key n pairs) {x : TelemetryFrame × EncryptedFrame} (hx : x ∈ pairs) :
    ∃ m, n ≤ m ∧ m < 2 ^ 64 ∧ x.2.frame_id = x.1.frame_id ∧
      P.aes_encrypt key (nonce_bytes m) x.1.payload (frame_aad x.1.frame_id) =
        .ok x.2.ciphertext := by
  induction pairs generalizing n with
  | nil => exact absurd hx List.not_mem_nil
  | cons y pairs ih =>
      obtain ⟨⟨hlimit, hid, haes⟩, hrest⟩ := h
      rcases List.mem_cons.mp hx with rfl | hx
      · exact ⟨n, Nat.le_refl n, hlimit, hid, haes⟩
      · obtain ⟨m, hm, hrest⟩ := ih hrest hx
        exact ⟨m, by omega, hrest⟩

/-- A frame sealed under the counter the receiver has reached is opened. -/
theorem decrypt_frame_sealed (haead : P.AeadCorrect) {sess : PqcSession} {now : UInt64}
    {frame : TelemetryFrame} {encrypted : EncryptedFrame} (hlimit : sess.recv_nonce < 2 ^ 64)
    (hid : encrypted.frame_id = frame.frame_id)
    (haes : P.aes_encrypt sess.recv_key (nonce_bytes sess.recv_nonce) frame.payload
      (frame_aad frame.frame_id) = .ok encrypted.ciphertext) :
    sess.decrypt_frame P encrypted now =
      (.ok frame.payload,
        { sess with recv_nonce := sess.recv_nonce + 1, last_activity := now }) := by
  rw [PqcSession.decrypt_frame, PqcSession.decrypt, if_neg (by omega), hid,
    haead _ _ _ _ _ haes]

/-- Frames delivered without a gap are opened. -/
theorem decrypt_frames_of_prefix (haead : P.AeadCorrect) {sess : PqcSession} {clock : ℕ → UInt64}
    {pairs delivered : List (TelemetryFrame × EncryptedFrame)}
    (hsealed : SealedFrom P sess.recv_key sess.recv_nonce pairs) (hpre : delivered <+: pairs) :
    decrypt_frames P sess clock (delivered.map Prod.snd) =
      delivered.map fun x => .ok x.1.payload := by
  induction delivered generalizing sess clock pairs with
  | nil => rfl
  | cons x delivered ih =>
      obtain ⟨rest, rfl⟩ := hpre
      obtain ⟨⟨hlimit, hid, haes⟩, hrest⟩ := hsealed
      rw [List.map_cons, decrypt_frames, decrypt_frame_sealed haead hlimit hid haes]
      exact congrArg _ (ih hrest (List.prefix_append _ _))

/-- Frames that are all opened were delivered without a gap. The induction is on what was
sealed: at the first frame that is missing the receiver meets one of a later number. -/
theorem prefix_of_decrypt_frames (haead : P.AeadCorrect) (hbind : P.NonceBinding)
    {sess : PqcSession} {clock : ℕ → UInt64}
    {pairs delivered : List (TelemetryFrame × EncryptedFrame)}
    (hsealed : SealedFrom P sess.recv_key sess.recv_nonce pairs) (hsub : delivered.Sublist pairs)
    (hopened : decrypt_frames P sess clock (delivered.map Prod.snd) =
      delivered.map fun x => .ok x.1.payload) : delivered <+: pairs := by
  induction pairs generalizing sess clock delivered with
  | nil =>
      have hnil : delivered = [] := List.sublist_nil.mp hsub
      subst hnil
      exact List.nil_prefix
  | cons x pairs ih =>
      obtain ⟨⟨hlimit, hid, haes⟩, hrest⟩ := hsealed
      cases delivered with
      | nil => exact List.nil_prefix
      | cons y delivered =>
          rw [List.map_cons, decrypt_frames, List.map_cons, List.cons.injEq] at hopened
          obtain ⟨hhead, htail⟩ := hopened
          by_cases hxy : y = x
          · -- nothing is missing here, and both counters move
            subst hxy
            rw [decrypt_frame_sealed haead hlimit hid haes] at htail
            have htl := ih hrest (List.Sublist.of_cons_cons hsub) htail
            exact (List.prefix_cons_inj y).mpr htl
          · -- `x` was lost, so `y` was sealed later than the receiver's counter
            have hy : y ∈ pairs := by
              have hmem : y ∈ x :: pairs := hsub.subset List.mem_cons_self
              exact (List.mem_cons.mp hmem).resolve_left hxy
            obtain ⟨m, hm, hmlt, hyid, hyaes⟩ := hrest.later hy
            obtain ⟨plaintext, hrlt, hdec, hres⟩ | ⟨err, hres⟩ :=
              decrypt_spec (P := P) sess y.2.ciphertext (frame_aad y.2.frame_id) (clock 0)
            · rw [hyid] at hdec
              have hmn := hbind _ _ _ _ _ _ _ hmlt hrlt hyaes hdec
              omega
            · rw [PqcSession.decrypt_frame, hres] at hhead
              cases hhead

/-- The session a process has just added is the last one. -/
theorem added_session {p : Process} {s sess : PqcSession}
    (h : (p.add_session s).heap[p.heap.length]? = some sess) : s = sess := by
  rw [Process.add_session, List.getElem?_concat_length] at h
  exact Option.some.inj h

/-! ## Between the two ends of an exchange

The two lemmas at the sessions of one key exchange. `establish_session` and `accept_session`
have succeeded, so their specs apply, and the keys agree. -/

/-- **Loss.** Frames sealed in order on an established session and delivered, in order
and with some missing, to the session that accepted its encapsulation are all opened
if and only if none is missing before a delivered one. -/
theorem delivery_succeeds_iff (hdh : P.DhCommutes) (hkem : P.MlKemCorrect)
    (haead : P.AeadCorrect) (hbind : P.NonceBinding) {p p' q q' : Process}
    {sender_kem receiver_kem : HybridKem P} {draws : EncapsulationDraws}
    {session_id session_id' now now' : UInt64} {a b : ℕ} {encapsulation : HybridEncapsulation}
    {sender receiver : PqcSession}
    (hestablish : p.establish_session sender_kem receiver_kem.local_public draws session_id now =
      (.ok (a, encapsulation), p')) (ha : p'.heap[a]? = some sender)
    (haccept : q.accept_session receiver_kem encapsulation session_id' now' = (.ok b, q'))
    (hb : q'.heap[b]? = some receiver)
    (clock clock' : ℕ → UInt64) (frames : List TelemetryFrame) (encrypted : List EncryptedFrame)
    (hencrypted : encrypt_frames P sender clock frames = encrypted.map .ok)
    (delivered : List (TelemetryFrame × EncryptedFrame))
    (hdelivered : delivered.Sublist (frames.zip encrypted)) :
    decrypt_frames P receiver clock' (delivered.map Prod.snd) =
        (delivered.map fun x => .ok x.1.payload) ↔ delivered <+: frames.zip encrypted := by
  cases hsent : HybridKem.encapsulation_secrets P receiver_kem.local_public draws with
  | error e =>
      rw [establish_session_error hsent] at hestablish
      cases hestablish
  | ok r =>
      obtain ⟨enc, sent⟩ := r
      rw [establish_session_ok hsent] at hestablish
      cases hestablish
      cases hreceived : receiver_kem.peer_secrets encapsulation with
      | error e =>
          rw [accept_session_error hreceived] at haccept
          cases haccept
      | ok received =>
          rw [accept_session_ok hreceived] at haccept
          cases haccept
          -- both ends have the secrets `sent`, so the receiver opens under the key the
          -- sender seals under
          rw [peer_secrets_eq hdh hkem hsent hreceived] at hb
          obtain rfl := added_session ha
          obtain rfl := added_session hb
          have hsealed := encrypt_frames_sealed hencrypted
          exact ⟨prefix_of_decrypt_frames haead hbind hsealed hdelivered,
            decrypt_frames_of_prefix haead hsealed⟩

/-! ## With the transparent primitives

They bind the nonce as GCM does, because a ciphertext ends in its nonce. Two examples follow:
a loss at the end, which the receiver does not notice, and one at the beginning, which stops
it. -/

theorem transparent_nonce_binding : Primitives.transparent.NonceBinding := by
  intro key m n msg associated_data ciphertext opened hm hn henc hdec
  have hc : msg ++ tag key (nonce_bytes m) associated_data = ciphertext := Except.ok.inj henc
  have hlen : ∀ k, (tag key (nonce_bytes k) associated_data).length = 16 := by
    intro k
    simp [tag, nonce_bytes]
  simp only [Primitives.transparent, Transparent.aes_decrypt] at hdec
  split at hdec
  · rename_i hsuffix
    -- both tags end the ciphertext, so they are equal, and they begin with the nonces
    have hm_suffix : tag key (nonce_bytes m) associated_data <:+ ciphertext := by
      rw [← hc]
      exact List.suffix_append _ _
    have htags := (List.suffix_of_suffix_length_le hsuffix hm_suffix
      (by rw [hlen, hlen])).eq_of_length (by rw [hlen, hlen])
    have hnonces := (List.append_inj htags (by simp [nonce_bytes])).1
    exact (nonce_bytes_inj hn hm hnonces).symm
  · cases hdec

/-- The sender's session of the first exchange. -/
def sender_session : PqcSession :=
  .new (Origin.send_key .transparent ⟨.Sender, exchange_secrets 1⟩)
    (Origin.recv_key .transparent ⟨.Sender, exchange_secrets 1⟩) 1 0

/-- The receiver's session of the first exchange. -/
def receiver_session : PqcSession :=
  .new (Origin.send_key .transparent ⟨.Receiver, exchange_secrets 1⟩)
    (Origin.recv_key .transparent ⟨.Receiver, exchange_secrets 1⟩) 2 0

/-- Three frames, of which the last is lost. -/
theorem delivery_succeeds_iff_last_lost :
    decrypt_frames .transparent receiver_session (fun _ => 0)
        [wire 1 .Sender 0 (telemetry 1 [7]), wire 1 .Sender 1 (telemetry 2 [8])] =
        [.ok [7], .ok [8]] ↔
      [(telemetry 1 [7], wire 1 .Sender 0 (telemetry 1 [7])),
        (telemetry 2 [8], wire 1 .Sender 1 (telemetry 2 [8]))] <+:
      [(telemetry 1 [7], wire 1 .Sender 0 (telemetry 1 [7])),
        (telemetry 2 [8], wire 1 .Sender 1 (telemetry 2 [8])),
        (telemetry 3 [9], wire 1 .Sender 2 (telemetry 3 [9]))] := by
  have hestablish : (Process.start 300).establish_session sender_kem receiver_kem.local_public
      (draws 1) 1 0 = (.ok (0, encapsulation 1), (Process.start 300).add_session sender_session) :=
    establish_session_ok (by decide +kernel)
  have haccept : (Process.start 300).accept_session receiver_kem (encapsulation 1) 2 0 =
      (.ok 0, (Process.start 300).add_session receiver_session) :=
    accept_session_ok (by decide +kernel)
  exact delivery_succeeds_iff Primitives.transparent_dh Primitives.transparent_mlkem
    Primitives.transparent_aead transparent_nonce_binding hestablish rfl haccept rfl
    (fun _ => 0) (fun _ => 0) [telemetry 1 [7], telemetry 2 [8], telemetry 3 [9]]
    [wire 1 .Sender 0 (telemetry 1 [7]), wire 1 .Sender 1 (telemetry 2 [8]),
      wire 1 .Sender 2 (telemetry 3 [9])] (by decide +kernel)
    [(telemetry 1 [7], wire 1 .Sender 0 (telemetry 1 [7])),
      (telemetry 2 [8], wire 1 .Sender 1 (telemetry 2 [8]))] (by decide +kernel)

/-- Two frames, of which the first is lost: the second is not opened. -/
theorem lost_frame_blocks_the_next :
    (Process.start 300).establish_session sender_kem receiver_kem.local_public (draws 1) 1 0 =
        (.ok (0, encapsulation 1), (Process.start 300).add_session sender_session) ∧
      (Process.start 300).accept_session receiver_kem (encapsulation 1) 2 0 =
        (.ok 0, (Process.start 300).add_session receiver_session) ∧
      encrypt_frames .transparent sender_session (fun _ => 0)
          [telemetry 1 [7], telemetry 2 [8]] =
        [.ok (wire 1 .Sender 0 (telemetry 1 [7])), .ok (wire 1 .Sender 1 (telemetry 2 [8]))] ∧
      decrypt_frames .transparent receiver_session (fun _ => 0)
          [wire 1 .Sender 1 (telemetry 2 [8])] ≠ [.ok [8]] := by
  decide +kernel

end SovereignEdgeTee
