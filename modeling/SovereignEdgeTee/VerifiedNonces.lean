/-
`verification/SovereignEdge/Nonce.lean`, the repository's own model of the nonce counter, and
a session as a refinement of it.

The model knows `encrypt` calls alone, one after the other, and emits the counter until it
meets the limit. A session has `decrypt` calls in between, and a cipher that may fail. Those
leave the counter alone, so what a session emits is the model's run for as many calls as
succeed, from wherever its counter stands. With a cipher that never fails it is the model's
run for all the `encrypt` calls: the calls past the limit are refused, and the model emits
nothing for them.
-/
import SovereignEdgeTee.PqcSessionRuns

set_option autoImplicit false

/-! ## The model

The model starts a run at a counter and lets it make a number of calls. It stops at the limit
and does not start again, so `run_succ` adds one value at the end or none. -/

namespace SovereignEdge.Nonce

def LIMIT : ℕ := 2 ^ 64

/-- What `k` calls emit from the counter `c` on. -/
def run (c : ℕ) : ℕ → List ℕ
  | 0 => []
  | k + 1 => if c ≥ LIMIT then [] else c :: run (c + 1) k

def NoDup : List ℕ → Prop
  | [] => True
  | x :: xs => x ∉ xs ∧ NoDup xs

theorem mem_run_bounds (k : ℕ) : ∀ c, ∀ n ∈ run c k, c ≤ n ∧ n < LIMIT := by
  induction k with
  | zero => exact fun c n hn => absurd hn List.not_mem_nil
  | succ k ih =>
      intro c n hn
      rw [run] at hn
      split at hn
      · exact absurd hn List.not_mem_nil
      · rcases List.mem_cons.mp hn with rfl | hn
        · omega
        · have hbounds := ih (c + 1) n hn
          omega

theorem run_noDup (k : ℕ) : ∀ c, NoDup (run c k) := by
  induction k with
  | zero => exact fun c => trivial
  | succ k ih =>
      intro c
      rw [run]
      split
      · trivial
      · refine ⟨?_, ih (c + 1)⟩
        intro hmem
        -- all later values are above this one
        have hbounds := mem_run_bounds k (c + 1) c hmem
        omega

theorem run_cons (c k : ℕ) :
    run c (k + 1) = if c ≥ LIMIT then [] else c :: run (c + 1) k := rfl

/-- One more call emits the next value, or nothing past the limit. -/
theorem run_succ (k : ℕ) :
    ∀ c, run c (k + 1) = if c + k < LIMIT then run c k ++ [c + k] else run c k := by
  induction k with
  | zero =>
      intro c
      by_cases hlimit : c ≥ LIMIT
      · rw [run_cons, if_pos hlimit, if_neg (by omega)]
        rfl
      · rw [run_cons, if_neg hlimit, if_pos (by omega)]
        rfl
  | succ k ih =>
      intro c
      by_cases hlimit : c ≥ LIMIT
      · rw [run_cons c (k + 1), run_cons c k, if_pos hlimit, if_pos hlimit, if_neg (by omega)]
      · have hsum : c + 1 + k = c + (k + 1) := by omega
        rw [run_cons c (k + 1), run_cons c k, if_neg hlimit, if_neg hlimit, ih (c + 1), hsum]
        split
        · rfl
        · rfl

/-- Calls past the limit emit nothing. -/
theorem run_stops {c k n : ℕ} (hlimit : c + k ≥ LIMIT) (hkn : k ≤ n) : run c n = run c k := by
  induction n, hkn using Nat.le_induction with
  | base => rfl
  | succ n hkn ih => rw [run_succ, if_neg (by omega), ih]

end SovereignEdge.Nonce

/-! ## The refinement

`Emits` is the invariant of the session's runs. It says what the model emits for the calls
that succeeded, how many that may be, and, of a cipher that accepts everything, that no call
has been refused below the limit. With that cipher the calls made and the calls that succeeded
differ past the limit only, where the model emits nothing either (`run_stops`). -/

namespace SovereignEdgeTee.PqcSession

open Mealy

/-- The counter values the successful `encrypt` calls were made at, oldest first. -/
def emitted (log : List SessionEntry) : List ℕ :=
  ((encrypts log).map fun e => e.before.send_nonce).reverse

/-- How many `encrypt` calls were made. -/
def encrypt_calls (log : List SessionEntry) : ℕ := log.countP fun e => e.input.is_encrypt

/-- `Aes256Gcm::encrypt` accepts every message. -/
def EncryptsAll (P : Primitives) : Prop :=
  ∀ key nonce msg associated_data, ∃ ciphertext,
    P.aes_encrypt key nonce msg associated_data = .ok ciphertext

variable {P : Primitives} {start sess : PqcSession} {log : List SessionEntry}

/-- What a session has emitted is what the model emits for the calls that succeeded. Where
the cipher never fails, calls have failed past the limit only. -/
structure Emits (P : Primitives) (start sess : PqcSession) (log : List SessionEntry) : Prop where
  counter : sess.send_nonce = start.send_nonce + (encrypts log).length
  emitted : emitted log = SovereignEdge.Nonce.run start.send_nonce (encrypts log).length
  called : (encrypts log).length ≤ encrypt_calls log
  refused : EncryptsAll P → (encrypts log).length = encrypt_calls log ∨
    start.send_nonce + (encrypts log).length ≥ SovereignEdge.Nonce.LIMIT

/-- A step that moves no send counter and emits nothing. -/
theorem Emits.idle (h : Emits P start sess log) {sess' : PqcSession} {e : SessionEntry}
    (hcounter : sess'.send_nonce = sess.send_nonce) (hencrypts : encrypts (e :: log) = encrypts log)
    (hcalls : encrypt_calls log ≤ encrypt_calls (e :: log))
    (hrefused : EncryptsAll P → encrypt_calls (e :: log) = encrypt_calls log ∨
      sess.send_nonce ≥ SovereignEdge.Nonce.LIMIT) : Emits P start sess' (e :: log) := by
  refine ⟨?_, ?_, ?_, ?_⟩
  · rw [hencrypts, hcounter, h.counter]
  · rw [PqcSession.emitted, hencrypts]
    exact h.emitted
  · rw [hencrypts]
    exact h.called.trans hcalls
  · intro hall
    rw [hencrypts]
    -- either no call was refused, or it was refused at the limit
    rcases hrefused hall with hsame | hlimit
    · rw [hsame]
      exact h.refused hall
    · rw [h.counter] at hlimit
      exact Or.inr hlimit

/-- A failed step adds nothing to the successful `encrypt` calls. -/
theorem encrypts_cons_error {call : SessionCall} {error : PqcError}
    (hstep : sess.step P call = (sess, .error error)) (log : List SessionEntry) :
    encrypts (entry (step P) sess call :: log) = encrypts log := by
  rw [encrypts, successes, List.filter_cons_of_neg]
  · rfl
  · rw [entry, hstep]
    exact Bool.false_ne_true

theorem encrypt_calls_cons (e : SessionEntry) (log : List SessionEntry) :
    encrypt_calls (e :: log) = encrypt_calls log + if e.input.is_encrypt then 1 else 0 :=
  List.countP_cons

/-- With a cipher that accepts everything only the limit refuses a call. -/
theorem encrypt_refused (hall : EncryptsAll P) {plaintext associated_data : List UInt8}
    {now : UInt64} {error : PqcError}
    (h : sess.encrypt P plaintext associated_data now = (.error error, sess)) :
    sess.send_nonce ≥ SovereignEdge.Nonce.LIMIT := by
  by_contra hlimit
  rw [SovereignEdge.Nonce.LIMIT] at hlimit
  obtain ⟨ciphertext, hcipher⟩ :=
    hall sess.send_key (nonce_bytes sess.send_nonce) plaintext associated_data
  rw [PqcSession.encrypt, if_neg hlimit, hcipher] at h
  cases congrArg Prod.fst h

theorem Emits.step (h : Emits P start sess log) (call : SessionCall) :
    Emits P start (sess.step P call).1 (entry (PqcSession.step P) sess call :: log) := by
  cases call with
  | encrypt plaintext associated_data now =>
      have hcalls : encrypt_calls
          (entry (PqcSession.step P) sess (.encrypt plaintext associated_data now) :: log) =
          encrypt_calls log + 1 := encrypt_calls_cons _ log
      obtain ⟨ciphertext, hlimit, -, hencrypt⟩ | ⟨error, herror⟩ :=
        encrypt_spec (P := P) sess plaintext associated_data now
      · have hstep : sess.step P (.encrypt plaintext associated_data now) =
            ({ sess with send_nonce := sess.send_nonce + 1, last_activity := now },
              .ok ciphertext) := by
          rw [PqcSession.step, hencrypt]
        have hencrypts := (encrypts_cons_ok hstep log).trans (if_pos rfl)
        rw [h.counter, ← SovereignEdge.Nonce.LIMIT] at hlimit
        refine ⟨?_, ?_, ?_, ?_⟩
        · rw [hencrypts, hstep, List.length_cons]
          show sess.send_nonce + 1 = _
          rw [h.counter]
          omega
        · -- the counter is what the model emits next
          rw [PqcSession.emitted, hencrypts, List.map_cons, List.reverse_cons, List.length_cons,
            SovereignEdge.Nonce.run_succ, if_pos hlimit, ← h.emitted, ← h.counter]
          rfl
        · rw [hencrypts, List.length_cons, hcalls]
          exact Nat.succ_le_succ h.called
        · intro hall
          rw [hencrypts, List.length_cons, hcalls]
          -- below the limit no call has been refused so far
          rcases h.refused hall with hsame | hpast
          · exact Or.inl (congrArg (· + 1) hsame)
          · exact absurd hlimit (not_lt.mpr hpast)
      · -- the call was refused: at the limit, or by the cipher
        have hstep : sess.step P (.encrypt plaintext associated_data now) =
            (sess, .error error) := by
          rw [PqcSession.step, herror]
        refine h.idle (by rw [hstep]) (encrypts_cons_error hstep log) (by omega) ?_
        exact fun hall => Or.inr (encrypt_refused hall herror)
  | decrypt ciphertext associated_data now =>
      have hcalls : encrypt_calls
          (entry (PqcSession.step P) sess (.decrypt ciphertext associated_data now) :: log) =
          encrypt_calls log := encrypt_calls_cons _ log
      -- the send counter is not touched, whether the call succeeds or not
      obtain ⟨plaintext, -, -, hdecrypt⟩ | ⟨error, herror⟩ :=
        decrypt_spec (P := P) sess ciphertext associated_data now
      · have hstep : sess.step P (.decrypt ciphertext associated_data now) =
            ({ sess with recv_nonce := sess.recv_nonce + 1, last_activity := now },
              .ok plaintext) := by
          rw [PqcSession.step, hdecrypt]
        have hencrypts := (encrypts_cons_ok hstep log).trans (if_neg Bool.false_ne_true)
        exact h.idle (by rw [hstep]) hencrypts hcalls.ge fun _ => Or.inl hcalls
      · have hstep : sess.step P (.decrypt ciphertext associated_data now) =
            (sess, .error error) := by
          rw [PqcSession.step, herror]
        exact h.idle (by rw [hstep]) (encrypts_cons_error hstep log) hcalls.ge
          fun _ => Or.inl hcalls

/-- **A session refines its nonce model.** From a session with any counters, after any calls,
the nonces of the `encrypt` calls that succeeded are the model's run from the send counter for
as many calls, and none is emitted twice. With a cipher that never fails they are the model's
run for all the `encrypt` calls made, past the limit too. -/
theorem nonce_model_refines (P : Primitives) (start : PqcSession) (calls : List SessionCall) :
    let log := (exec (step P) start calls).2
    emitted log = SovereignEdge.Nonce.run start.send_nonce (encrypts log).length ∧
      SovereignEdge.Nonce.NoDup (emitted log) ∧
      (EncryptsAll P →
        emitted log = SovereignEdge.Nonce.run start.send_nonce (encrypt_calls log)) := by
  intro log
  have hstart : Emits P start start [] := ⟨rfl, rfl, Nat.le_refl _, fun _ => Or.inl rfl⟩
  have h : Emits P start (exec (step P) start calls).1 log :=
    exec_induction (step P) (I := Emits P start) hstart (fun _ _ call h => h.step call) calls
  refine ⟨h.emitted, ?_, ?_⟩
  · rw [h.emitted]
    exact SovereignEdge.Nonce.run_noDup _ _
  · intro hall
    rw [h.emitted]
    rcases h.refused hall with hsame | hpast
    · rw [hsame]
    · exact (SovereignEdge.Nonce.run_stops hpast h.called).symm

end SovereignEdgeTee.PqcSession
