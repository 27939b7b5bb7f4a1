/-
A session on its own: what its `encrypt` and `decrypt` calls leave behind.

Both methods have three exits, and only the last one writes: a call that is refused or that
the cipher rejects leaves every field as it is. So a session remembers its successful calls
and nothing else. Its counters count them, each of them used the next nonce, and a run with
the calls that failed left out is the same run.
-/
import SovereignEdgeTee.PqcSessions

set_option autoImplicit false

namespace SovereignEdgeTee

open LeBytes Mealy

/-- A call of a session, with the clock reading it makes if it succeeds. -/
inductive SessionCall where
  | encrypt (plaintext associated_data : List UInt8) (now : UInt64)
  | decrypt (ciphertext associated_data : List UInt8) (now : UInt64)
deriving DecidableEq

namespace SessionCall

def now : SessionCall → UInt64
  | .encrypt _ _ now => now
  | .decrypt _ _ now => now

def is_encrypt : SessionCall → Bool
  | .encrypt _ _ _ => true
  | .decrypt _ _ _ => false

end SessionCall

abbrev SessionReply := Except PqcError (List UInt8)

abbrev SessionEntry := Entry PqcSession SessionCall SessionReply

namespace PqcSession

/-- One call. -/
def step (P : Primitives) (self : PqcSession) : SessionCall → PqcSession × SessionReply
  | .encrypt plaintext associated_data now =>
    let r := self.encrypt P plaintext associated_data now
    (r.2, r.1)
  | .decrypt ciphertext associated_data now =>
    let r := self.decrypt P ciphertext associated_data now
    (r.2, r.1)

/-- The steps that succeeded. -/
def successes (log : List SessionEntry) : List SessionEntry := log.filter fun e => e.output.isOk

/-- The `encrypt` calls that succeeded. -/
def encrypts (log : List SessionEntry) : List SessionEntry :=
  (successes log).filter fun e => e.input.is_encrypt

/-- The `decrypt` calls that succeeded. -/
def decrypts (log : List SessionEntry) : List SessionEntry :=
  (successes log).filter fun e => !e.input.is_encrypt

/-- The clock reading of the last call that succeeded, or the one the session was made at. -/
def last_success (created : UInt64) (log : List SessionEntry) : UInt64 :=
  ((successes log).head?.map fun e => e.input.now).getD created

/-- The nonces of the `encrypt` calls that succeeded, newest first. -/
def send_nonces (log : List SessionEntry) : List (List UInt8) :=
  (encrypts log).map fun e => nonce_bytes e.before.send_nonce

/-- A successful `encrypt` is one of the cipher under the nonce of its place: the number of
those before it, in twelve bytes. -/
def SealedInPlace (P : Primitives) (key : AesKey) (older : List SessionEntry)
    (e : SessionEntry) : Prop :=
  ∀ plaintext associated_data now ciphertext,
    e.input = .encrypt plaintext associated_data now → e.output = .ok ciphertext →
    P.aes_encrypt key (to_le_bytes 12 (encrypts older).length) plaintext associated_data
      = .ok ciphertext

/-- The session is what its successful calls have made of `start`, and no counter is past
its limit. -/
structure Tallied (start sess : PqcSession) (log : List SessionEntry) : Prop where
  state : sess = { start with
    send_nonce := (encrypts log).length
    recv_nonce := (decrypts log).length
    last_activity := last_success start.last_activity log }
  send_limit : (encrypts log).length ≤ 2 ^ 64
  recv_limit : (decrypts log).length ≤ 2 ^ 64
  nonces : send_nonces log
    = ((List.range (encrypts log).length).map (to_le_bytes 12)).reverse

variable {P : Primitives} {start sess : PqcSession} {log : List SessionEntry}

/-! ## One call

A call that fails is left out of every projection of the log, and leaves the session as it is.
A call that succeeds is the newest entry of its own projection and of no other one. With these
the step lemma `Tallied.step` has three cases, and its arithmetic is that of appending one. -/

/-- A call that fails changes nothing. -/
theorem step_failed (P : Primitives) (sess : PqcSession) (call : SessionCall)
    (hfailed : ¬ (sess.step P call).2.isOk = true) : (sess.step P call).1 = sess := by
  cases call with
  | encrypt plaintext associated_data now =>
      -- by the spec of the function, a failed call has not touched the session
      rw [step] at hfailed ⊢
      rcases encrypt_spec (P := P) sess plaintext associated_data now with
        ⟨ciphertext, -, -, hok⟩ | ⟨e, herror⟩
      · rw [hok] at hfailed
        exact absurd rfl hfailed
      · rw [herror]
  | decrypt ciphertext associated_data now =>
      rw [step] at hfailed ⊢
      rcases decrypt_spec (P := P) sess ciphertext associated_data now with
        ⟨plaintext, -, -, hok⟩ | ⟨e, herror⟩
      · rw [hok] at hfailed
        exact absurd rfl hfailed
      · rw [herror]

theorem Tallied.failed (h : Tallied start sess log) {call : SessionCall}
    (hfailed : ¬ (sess.step P call).2.isOk = true) :
    Tallied start (sess.step P call).1 (entry (step P) sess call :: log) := by
  have hsuccesses : successes (entry (step P) sess call :: log) = successes log :=
    List.filter_cons_of_neg hfailed
  rw [step_failed P sess call hfailed]
  refine ⟨?_, ?_, ?_, ?_⟩
  · rw [encrypts, decrypts, last_success, hsuccesses]
    exact h.state
  · rw [encrypts, hsuccesses]
    exact h.send_limit
  · rw [decrypts, hsuccesses]
    exact h.recv_limit
  · rw [send_nonces, encrypts, hsuccesses]
    exact h.nonces

/-- The nonce of a counter value is the value itself, in twelve bytes. -/
theorem nonce_bytes_eq (counter : ℕ) : nonce_bytes counter = to_le_bytes 12 counter :=
  take_to_le_bytes 16 12 counter (by omega)

section CallOk

variable {call : SessionCall} {next : PqcSession} {bytes : List UInt8}

/-- A step that succeeds is the last of the successful ones. -/
theorem successes_cons_ok (hstep : sess.step P call = (next, .ok bytes))
    (log : List SessionEntry) :
    successes (entry (step P) sess call :: log)
      = entry (step P) sess call :: successes log :=
  List.filter_cons_of_pos (by rw [entry, hstep]; rfl)

theorem encrypts_cons_ok (hstep : sess.step P call = (next, .ok bytes))
    (log : List SessionEntry) :
    encrypts (entry (step P) sess call :: log)
      = if call.is_encrypt then entry (step P) sess call :: encrypts log else encrypts log := by
  rw [encrypts, successes_cons_ok hstep, List.filter_cons]
  rfl

theorem decrypts_cons_ok (hstep : sess.step P call = (next, .ok bytes))
    (log : List SessionEntry) :
    decrypts (entry (step P) sess call :: log)
      = if !call.is_encrypt then entry (step P) sess call :: decrypts log else decrypts log := by
  rw [decrypts, successes_cons_ok hstep, List.filter_cons]
  rfl

theorem last_success_cons_ok (hstep : sess.step P call = (next, .ok bytes)) (created : UInt64)
    (log : List SessionEntry) :
    last_success created (entry (step P) sess call :: log) = call.now := by
  rw [last_success, successes_cons_ok hstep]
  rfl

end CallOk

theorem Tallied.encrypted (h : Tallied start sess log) {plaintext associated_data : List UInt8}
    {now : UInt64} {ciphertext : List UInt8} (hlimit : sess.send_nonce < 2 ^ 64)
    (hstep : sess.step P (.encrypt plaintext associated_data now)
      = ({ sess with send_nonce := sess.send_nonce + 1, last_activity := now },
          .ok ciphertext)) :
    Tallied start (sess.step P (.encrypt plaintext associated_data now)).1
      (entry (step P) sess (.encrypt plaintext associated_data now) :: log) := by
  have hencrypts := (encrypts_cons_ok hstep log).trans (if_pos rfl)
  have hdecrypts := (decrypts_cons_ok hstep log).trans (if_neg Bool.false_ne_true)
  have hcounter : sess.send_nonce = (encrypts log).length := by rw [h.state]
  -- the counter before the call is the number of successful calls, by `state`
  refine ⟨?_, ?_, ?_, ?_⟩
  · rw [hencrypts, hdecrypts, last_success_cons_ok hstep, hstep, h.state]
    rfl
  · rw [hencrypts, List.length_cons, ← hcounter]
    exact hlimit
  · rw [hdecrypts]
    exact h.recv_limit
  · -- the nonce of this call is the next of the range
    rw [send_nonces, hencrypts, List.length_cons, List.range_succ, List.map_append,
      List.reverse_append, List.map_cons, ← send_nonces, h.nonces]
    show nonce_bytes sess.send_nonce :: _ = to_le_bytes 12 (encrypts log).length :: _
    rw [nonce_bytes_eq, hcounter]
    rfl

theorem Tallied.decrypted (h : Tallied start sess log) {ciphertext associated_data : List UInt8}
    {now : UInt64} {plaintext : List UInt8} (hlimit : sess.recv_nonce < 2 ^ 64)
    (hstep : sess.step P (.decrypt ciphertext associated_data now)
      = ({ sess with recv_nonce := sess.recv_nonce + 1, last_activity := now },
          .ok plaintext)) :
    Tallied start (sess.step P (.decrypt ciphertext associated_data now)).1
      (entry (step P) sess (.decrypt ciphertext associated_data now) :: log) := by
  have hencrypts := (encrypts_cons_ok hstep log).trans (if_neg Bool.false_ne_true)
  have hdecrypts := (decrypts_cons_ok hstep log).trans (if_pos rfl)
  have hcounter : sess.recv_nonce = (decrypts log).length := by rw [h.state]
  refine ⟨?_, ?_, ?_, ?_⟩
  · rw [hencrypts, hdecrypts, last_success_cons_ok hstep, hstep, h.state]
    rfl
  · rw [hencrypts]
    exact h.send_limit
  · rw [hdecrypts, List.length_cons, ← hcounter]
    exact hlimit
  · rw [send_nonces, hencrypts]
    exact h.nonces

/-- Every call keeps the session what its successful calls have made of it. -/
theorem Tallied.step (h : Tallied start sess log) (call : SessionCall) :
    Tallied start (sess.step P call).1 (entry (PqcSession.step P) sess call :: log) := by
  by_cases hok : (sess.step P call).2.isOk = true
  · cases call with
    | encrypt plaintext associated_data now =>
        rcases encrypt_spec (P := P) sess plaintext associated_data now with
          ⟨ciphertext, hlimit, -, hencrypt⟩ | ⟨e, herror⟩
        · exact h.encrypted hlimit (by rw [PqcSession.step, hencrypt])
        · rw [PqcSession.step, herror] at hok
          cases hok
    | decrypt ciphertext associated_data now =>
        rcases decrypt_spec (P := P) sess ciphertext associated_data now with
          ⟨plaintext, hlimit, -, hdecrypt⟩ | ⟨e, herror⟩
        · exact h.decrypted hlimit (by rw [PqcSession.step, hdecrypt])
        · rw [PqcSession.step, herror] at hok
          cases hok
  · exact h.failed hok

/-- The cipher is used under the nonce of the call's place. -/
theorem Tallied.sealed_in_place (h : Tallied start sess log) (call : SessionCall) :
    SealedInPlace P start.send_key log (entry (PqcSession.step P) sess call) := by
  intro plaintext associated_data now ciphertext hcall hreply
  have hencrypt : sess.encrypt P plaintext associated_data now = (.ok ciphertext,
      (sess.step P call).1) := by
    obtain rfl : call = .encrypt plaintext associated_data now := hcall
    exact Prod.ext hreply rfl
  rcases encrypt_spec (P := P) sess plaintext associated_data now with
    ⟨ciphertext', -, haes, hok⟩ | ⟨e, herror⟩
  · rw [hencrypt, Prod.mk.injEq, Except.ok.injEq] at hok
    rw [nonce_bytes_eq, h.state, ← hok.1] at haes
    exact haes
  · rw [hencrypt] at herror
    cases congrArg Prod.fst herror

/-- **A session is what its successful calls have made of it.** For every session and every
sequence of calls, at every clock: its counters count the successful calls, each successful
`encrypt` used the nonce of its place and no two used one, and the run without the calls
that failed ends in the same session and answers every call as before. -/
theorem successful_calls_only (P : Primitives) (send_key recv_key : AesKey)
    (session_id created : UInt64) (calls : List SessionCall) :
    let start := PqcSession.new send_key recv_key session_id created
    let run := exec (step P) start calls
    Tallied start run.1 run.2 ∧
      Guarded (SealedInPlace P send_key) run.2 ∧
      (send_nonces run.2).Nodup ∧
      exec (step P) start (replayed (successes run.2)) = (run.1, successes run.2) := by
  intro start run
  have hstart : Tallied start start [] := ⟨rfl, Nat.zero_le _, Nat.zero_le _, rfl⟩
  have hkept : ∀ sess log call, Tallied start sess log →
      Tallied start (step P sess call).1 (entry (step P) sess call :: log) :=
    fun _ _ call h => h.step call
  have htallied : Tallied start run.1 run.2 := exec_induction (step P) hstart hkept calls
  refine ⟨htallied, ?_, ?_, ?_⟩
  · exact exec_guarded (step P) hstart hkept (fun _ _ call h => h.sealed_in_place call) calls
  · -- the nonces count up from zero and stay below `2 ^ 64`, which twelve bytes tell apart
    rw [htallied.nonces, List.nodup_reverse]
    refine List.Nodup.map_on ?_ List.nodup_range
    intro m hm n hn heq
    rw [List.mem_range] at hm hn
    have hlimit := htallied.send_limit
    rw [← nonce_bytes_eq, ← nonce_bytes_eq] at heq
    exact nonce_bytes_inj (by omega) (by omega) heq
  · exact exec_erase (step P) (step_failed P) start calls

end PqcSession

end SovereignEdgeTee
