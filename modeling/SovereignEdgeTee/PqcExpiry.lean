/-
The timeout of a session, which `cleanup_expired` applies to the manager's list and nothing
else does. A caller keeps its handle, and `encrypt_frame` and `decrypt_frame` look neither
at the clock nor at the list: they work on a session that has lapsed as on any other, and
a frame that goes through makes its session young again.
-/
import SovereignEdgeTee.PqcRegistry

set_option autoImplicit false

namespace SovereignEdgeTee

open Mealy

variable {P : Primitives}

/-- The session and the clock reading of a call that puts a frame through a session. -/
def TransportCall.frame_use : TransportCall P → Option (ℕ × UInt64)
  | .encrypt_frame session _ now => some (session, now)
  | .decrypt_frame session _ now => some (session, now)
  | _ => none

/-- The reply is `Err(SessionExpired)`. -/
def TransportReply.is_session_expired : TransportReply → Bool
  | .encrypted (.error .SessionExpired) => true
  | .decrypted (.error .SessionExpired) => true
  | _ => false

/-- The session has been idle for longer than the timeout of the manager, or the manager
has dropped it. -/
def Process.Lapsed (self : Process) (session : ℕ) (now : UInt64) : Prop :=
  ∃ sess, self.heap[session]? = some sess ∧
    (sess.is_expired self.manager.session_timeout_nanos now = true ∨
      session ∉ self.manager.sessions)

/-- The step puts a frame through a session that has lapsed. -/
def UsesLapsed (e : TransportEntry P) : Prop :=
  ∃ session now, e.input.frame_use = some (session, now) ∧ e.before.Lapsed session now

/-- The step, if it puts a frame through a session that has lapsed, is turned down as it
should be, and leaves all sessions as they are. -/
def Enforced (e : TransportEntry P) : Prop :=
  UsesLapsed e →
    e.output.is_session_expired = true ∧ (e.before.step P e.input).1.heap = e.before.heap

/-! ## What lapsed sessions answer

`PqcError` has a `SessionExpired`, and no function of the crate constructs it. The errors of
`encrypt` and `decrypt` are those of the nonce counter and of the cipher, and what
`encrypt_frame` and `decrypt_frame` return is passed on from them; so a frame is never turned
down because its session has lapsed. -/

theorem encrypt_ne_session_expired (sess : PqcSession) (plaintext associated_data : List UInt8)
    (now : UInt64) :
    (sess.encrypt P plaintext associated_data now).1 ≠ .error .SessionExpired := by
  rw [PqcSession.encrypt]
  split
  · intro h
    cases h
  · split
    · intro h
      cases h
    · intro h
      cases h

theorem decrypt_ne_session_expired (sess : PqcSession) (ciphertext associated_data : List UInt8)
    (now : UInt64) :
    (sess.decrypt P ciphertext associated_data now).1 ≠ .error .SessionExpired := by
  rw [PqcSession.decrypt]
  split
  · intro h
    cases h
  · split
    · intro h
      cases h
    · intro h
      cases h

theorem encrypted_not_expired {result : Except PqcError EncryptedFrame}
    (h : result ≠ .error .SessionExpired) :
    (TransportReply.encrypted result).is_session_expired = false := by
  rw [TransportReply.is_session_expired.eq_def]
  split
  · rename_i heq
    exact absurd (TransportReply.encrypted.inj heq) h
  · rename_i heq
    cases heq
  · rfl

theorem decrypted_not_expired {result : Except PqcError (List UInt8)}
    (h : result ≠ .error .SessionExpired) :
    (TransportReply.decrypted result).is_session_expired = false := by
  rw [TransportReply.is_session_expired.eq_def]
  split
  · rename_i heq
    cases heq
  · rename_i heq
    exact absurd (TransportReply.decrypted.inj heq) h
  · rfl

/-- No call returns `SessionExpired`. -/
theorem not_is_session_expired (process : Process) (call : TransportCall P) :
    (process.step P call).2.is_session_expired = false := by
  cases call with
  | encrypt_frame session frame now =>
      rw [Process.step]
      rcases process.heap[session]? with _ | sess
      · rfl
      · -- the frame passes the error of `encrypt` on
        apply encrypted_not_expired
        have hne := encrypt_ne_session_expired (P := P) sess frame.payload
          (frame_aad frame.frame_id) now
        rw [PqcSession.encrypt_frame]
        rcases hresult : sess.encrypt P frame.payload (frame_aad frame.frame_id) now with
          ⟨e | ciphertext, sess'⟩
        · rw [hresult] at hne
          intro h
          rw [Except.error.inj h] at hne
          exact hne rfl
        · intro h
          cases h
  | decrypt_frame session encrypted now =>
      rw [Process.step]
      rcases process.heap[session]? with _ | sess
      · rfl
      · exact decrypted_not_expired (decrypt_ne_session_expired sess _ _ now)
  | establish_session local_kem remote_public draws session_id now => rfl
  | accept_session local_kem encapsulation session_id now => rfl
  | cleanup_expired clock => rfl

/-- **When the timeout is enforced.** In a run every frame for a lapsed session is turned
down with `SessionExpired`, and changes nothing, just when there is no such frame. -/
theorem expiry_enforced_iff (session_timeout_secs : UInt64) (calls : List (TransportCall P)) :
    (∀ e ∈ (exec (Process.step P) (Process.start session_timeout_secs) calls).2, Enforced e) ↔
      ∀ e ∈ (exec (Process.step P) (Process.start session_timeout_secs) calls).2,
        ¬ UsesLapsed e := by
  constructor
  · intro hall e he hlapsed
    have hexpired := (hall e he hlapsed).1
    rw [exec_output _ _ _ e he, not_is_session_expired] at hexpired
    cases hexpired
  · intro hnone e he hlapsed
    exact absurd hlapsed (hnone e he)

/-- A session 100 s past its timeout still encrypts, and is not expired any more. -/
theorem lapsed_session_revives :
    let run := exec (Process.step .transparent) (Process.start 300)
      [Transparent.establish 1, .encrypt_frame 0 (Transparent.telemetry 1 [7]) 400000000000]
    ∃ e ∈ run.2, UsesLapsed e ∧ ¬ Enforced e ∧
      (∃ encrypted, e.output = .encrypted (.ok encrypted)) ∧
      ∃ sess, run.1.heap[0]? = some sess ∧
        sess.is_expired run.1.manager.session_timeout_nanos 400000000000 = false := by
  have hlapsed : UsesLapsed (entry (Process.step .transparent)
      ((Process.start 300).step .transparent (Transparent.establish 1)).1
      (.encrypt_frame 0 (Transparent.telemetry 1 [7]) 400000000000)) :=
    ⟨0, 400000000000, rfl, _, rfl, Or.inl (by decide)⟩
  refine ⟨_, List.mem_cons_self, hlapsed, ?_, ⟨_, rfl⟩, _, rfl, by decide⟩
  intro henforced
  have hexpired := (henforced hlapsed).1
  cases hexpired

end SovereignEdgeTee
