/-
The sessions of one process, apart from each other.

A manager hands out sessions and takes them back with every call, and its list of sessions is
there for `cleanup_expired` alone. So a session knows nothing of the others, nor of being dropped
from the list: it is what its own calls make of the session that the key exchange returned, and
each of them is answered as on that session alone. What a run does to one session can therefore
be read from the run of `PqcSession.step` on its part of the calls, which is how
`sessions_isolated` states it.
-/
import SovereignEdgeTee.PqcSessionRuns

set_option autoImplicit false

namespace SovereignEdgeTee

open Mealy

variable {P : Primitives}

/-! ## One session's part of a run

The calls of a process on one handle, turned into calls of a session: `encrypt_frame` is
`encrypt` on the payload with the frame id as associated data, and `decrypt_frame` is
`decrypt`. `alone` runs them on the session that the key exchange made, with nothing else
around. -/

/-- The session a call makes, if its key exchange succeeds. -/
def TransportCall.new_session : TransportCall P → Option PqcSession
  | .establish_session local_kem remote_public draws session_id now =>
    (establish_session local_kem remote_public draws session_id now).origin.map fun o =>
      PqcSession.new (o.send_key P) (o.recv_key P) session_id now
  | .accept_session local_kem encapsulation session_id now =>
    (accept_session local_kem encapsulation session_id now).origin.map fun o =>
      PqcSession.new (o.send_key P) (o.recv_key P) session_id now
  | _ => none

/-- The sessions a log has made, oldest first: the handle of one is its place. -/
def sessions_made : List (TransportEntry P) → List PqcSession
  | [] => []
  | e :: older => sessions_made older ++ e.input.new_session.toList

/-- What a step has one session do, and what that answers. -/
def session_exchange (session : ℕ) (e : TransportEntry P) : Option (SessionCall × SessionReply) :=
  match e.input, e.output with
  | .encrypt_frame handle frame now, .encrypted result =>
    if handle = session then
      some (.encrypt frame.payload (frame_aad frame.frame_id) now,
        result.map EncryptedFrame.ciphertext)
    else none
  | .decrypt_frame handle encrypted now, .decrypted result =>
    if handle = session then
      some (.decrypt encrypted.ciphertext (frame_aad encrypted.frame_id) now, result)
    else none
  | _, _ => none

/-- One session's part of a log, newest first. -/
def session_exchanges (session : ℕ) (log : List (TransportEntry P)) :
    List (SessionCall × SessionReply) :=
  log.filterMap (session_exchange session)

/-- The run of a session alone, on calls that are given newest first. -/
def alone (P : Primitives) (start : PqcSession) (calls : List SessionCall) :
    PqcSession × List SessionEntry :=
  exec (PqcSession.step P) start calls.reverse

theorem alone_cons (start : PqcSession) (call : SessionCall) (calls : List SessionCall) :
    alone P start (call :: calls) =
      advance (PqcSession.step P) (alone P start calls) call := by
  rw [alone, List.reverse_cons, exec_concat]
  rfl

/-! ## The invariant

`Isolated` has the equation for every session, and says besides that a handle not yet handed
out has no part in the log; without it a new session would start with a past. A step either
makes a session, uses one, or does neither, and there is one lemma for each. -/

/-- A session is what its part of the run makes of it, and a handle that was not handed out yet
has no part in the run. -/
structure Isolated (process : Process) (log : List (TransportEntry P)) : Prop where
  count : process.heap.length = (sessions_made log).length
  own : ∀ session start, (sessions_made log)[session]? = some start →
    let own := alone P start ((session_exchanges session log).map Prod.fst)
    process.heap[session]? = some own.1 ∧ exchanges own.2 = session_exchanges session log
  unborn : ∀ session, process.heap.length ≤ session → session_exchanges session log = []

namespace Isolated

variable {process after : Process} {log : List (TransportEntry P)} {e : TransportEntry P}

/-- A step that has no session do anything, and makes none. -/
theorem idle (h : Isolated process log) (hnew : e.input.new_session = none)
    (hexchange : ∀ session, session_exchange session e = none)
    (hheap : after.heap = process.heap) : Isolated after (e :: log) := by
  have hmade : sessions_made (e :: log) = sessions_made log := by
    rw [sessions_made, hnew]
    exact List.append_nil _
  have hexchanges : ∀ session, session_exchanges session (e :: log) =
      session_exchanges session log :=
    fun session => List.filterMap_cons_none (hexchange session)
  refine ⟨?_, ?_, ?_⟩
  · rw [hheap, hmade]
    exact h.count
  · intro session start hstart
    rw [hmade] at hstart
    rw [hexchanges, hheap]
    exact h.own session start hstart
  · intro session hsession
    rw [hexchanges]
    rw [hheap] at hsession
    exact h.unborn session hsession

/-- A step that makes a session. -/
theorem made (h : Isolated process log) {sess : PqcSession}
    (hnew : e.input.new_session = some sess)
    (hexchange : ∀ session, session_exchange session e = none)
    (hheap : after.heap = process.heap ++ [sess]) : Isolated after (e :: log) := by
  have hmade : sessions_made (e :: log) = sessions_made log ++ [sess] := by
    rw [sessions_made, hnew]
    rfl
  have hexchanges : ∀ session, session_exchanges session (e :: log) =
      session_exchanges session log :=
    fun session => List.filterMap_cons_none (hexchange session)
  refine ⟨?_, ?_, ?_⟩
  · rw [hheap, hmade, List.length_append, List.length_append]
    exact congrArg (· + 1) h.count
  · intro session start hstart
    rw [hexchanges, hheap]
    rw [hmade] at hstart
    by_cases hlt : session < (sessions_made log).length
    · rw [List.getElem?_append_left hlt] at hstart
      rw [List.getElem?_append_left (by rw [h.count]; exact hlt)]
      exact h.own session start hstart
    · -- the new session has not been used
      have hunborn := h.unborn session (by rw [h.count]; exact Nat.le_of_not_lt hlt)
      rw [List.getElem?_append_right (Nat.le_of_not_lt hlt)] at hstart
      rw [List.getElem?_append_right (by rw [h.count]; exact Nat.le_of_not_lt hlt), h.count,
        hstart, hunborn]
      exact ⟨rfl, rfl⟩
  · intro session hsession
    rw [hheap, List.length_append] at hsession
    rw [hexchanges]
    exact h.unborn session (Nat.le_of_add_right_le hsession)

/-- A step that has one session do something. -/
theorem used (h : Isolated process log) {session : ℕ} {sess : PqcSession} {call : SessionCall}
    (hsess : process.heap[session]? = some sess) (hnew : e.input.new_session = none)
    (hexchange : session_exchange session e = some (call, (sess.step P call).2))
    (hothers : ∀ other, session ≠ other → session_exchange other e = none)
    (hheap : after.heap = process.heap.set session (sess.step P call).1) :
    Isolated after (e :: log) := by
  obtain ⟨hlt, -⟩ := List.getElem?_eq_some_iff.mp hsess
  have hmade : sessions_made (e :: log) = sessions_made log := by
    rw [sessions_made, hnew]
    exact List.append_nil _
  have hexchanges : ∀ other, session ≠ other → session_exchanges other (e :: log) =
      session_exchanges other log :=
    fun other hne => List.filterMap_cons_none (hothers other hne)
  refine ⟨?_, ?_, ?_⟩
  · rw [hheap, List.length_set, hmade]
    exact h.count
  · intro other start hstart
    rw [hmade] at hstart
    obtain ⟨hstate, hseen⟩ := h.own other start hstart
    by_cases hne : session = other
    · -- the session that was used goes on from where its own calls left it
      subst hne
      have hown : session_exchanges session (e :: log) =
          (call, (sess.step P call).2) :: session_exchanges session log :=
        List.filterMap_cons_some hexchange
      have hcurrent : (alone P start ((session_exchanges session log).map Prod.fst)).1 = sess :=
        Option.some.inj (hstate.symm.trans hsess)
      rw [hown, List.map_cons, alone_cons, hheap, List.getElem?_set_self hlt, advance, hcurrent]
      refine ⟨rfl, ?_⟩
      exact congrArg (List.cons _) hseen
    · -- for the others nothing has happened
      rw [hexchanges other hne, hheap, List.getElem?_set_ne hne]
      exact ⟨hstate, hseen⟩
  · intro other hother
    rw [hheap, List.length_set] at hother
    rw [hexchanges other (Nat.ne_of_lt (Nat.lt_of_lt_of_le hlt hother))]
    exact h.unborn other hother

/-! ## Steps

The calls of a manager, by these three lemmas. What is left to show in each case is which
session the call makes or uses, and what it replies. -/

theorem establish (h : Isolated process log) (local_kem : HybridKem P)
    (remote_public : HybridPublicKey) (draws : EncapsulationDraws) (session_id now : UInt64) :
    let call : TransportCall P :=
      .establish_session local_kem remote_public draws session_id now
    Isolated (process.step P call).1 (entry (Process.step P) process call :: log) := by
  intro call
  cases hsecrets : HybridKem.encapsulation_secrets P remote_public draws with
  | error e =>
      have hnew : call.new_session = none := by
        simp only [call, TransportCall.new_session, TransportCall.origin, hsecrets,
          Option.map_none]
      refine h.idle hnew (fun _ => rfl) ?_
      simp only [call, Process.step, establish_session_error hsecrets]
  | ok r =>
      obtain ⟨encapsulation, secrets⟩ := r
      have hnew : call.new_session = some (PqcSession.new (Origin.send_key P ⟨.Sender, secrets⟩)
          (Origin.recv_key P ⟨.Sender, secrets⟩) session_id now) := by
        simp only [call, TransportCall.new_session, TransportCall.origin, hsecrets,
          Option.map_some]
      refine h.made hnew (fun _ => rfl) ?_
      simp only [call, Process.step, establish_session_ok hsecrets, Process.add_session]

theorem accept (h : Isolated process log) (local_kem : HybridKem P)
    (encapsulation : HybridEncapsulation) (session_id now : UInt64) :
    let call : TransportCall P := .accept_session local_kem encapsulation session_id now
    Isolated (process.step P call).1 (entry (Process.step P) process call :: log) := by
  intro call
  cases hsecrets : local_kem.peer_secrets encapsulation with
  | error e =>
      have hnew : call.new_session = none := by
        simp only [call, TransportCall.new_session, TransportCall.origin, hsecrets,
          Option.map_none]
      refine h.idle hnew (fun _ => rfl) ?_
      simp only [call, Process.step, accept_session_error hsecrets]
  | ok secrets =>
      have hnew : call.new_session = some (PqcSession.new (Origin.send_key P ⟨.Receiver, secrets⟩)
          (Origin.recv_key P ⟨.Receiver, secrets⟩) session_id now) := by
        simp only [call, TransportCall.new_session, TransportCall.origin, hsecrets,
          Option.map_some]
      refine h.made hnew (fun _ => rfl) ?_
      simp only [call, Process.step, accept_session_ok hsecrets, Process.add_session]

/-- `encrypt_frame` is `encrypt`, up to the frame it wraps the ciphertext in. -/
theorem encrypt_frame_eq (sess : PqcSession) (frame : TelemetryFrame) (now : UInt64) :
    let r := sess.encrypt_frame P frame now
    sess.step P (.encrypt frame.payload (frame_aad frame.frame_id) now)
      = (r.2, r.1.map EncryptedFrame.ciphertext) := by
  rw [PqcSession.step, PqcSession.encrypt_frame]
  rcases sess.encrypt P frame.payload (frame_aad frame.frame_id) now with ⟨_ | _, next⟩
  · rfl
  · rfl

theorem encrypt (h : Isolated process log) (session : ℕ) (frame : TelemetryFrame)
    (now : UInt64) :
    let call : TransportCall P := .encrypt_frame session frame now
    Isolated (process.step P call).1 (entry (Process.step P) process call :: log) := by
  intro call
  cases hsess : process.heap[session]? with
  | none =>
      have hstep : process.step P call = (process, .no_session) := by
        simp only [call, Process.step, hsess]
      rw [entry, hstep]
      exact h.idle rfl (fun _ => rfl) rfl
  | some sess =>
      have hstep : process.step P call =
          ({ process with heap := process.heap.set session (sess.encrypt_frame P frame now).2 },
            .encrypted (sess.encrypt_frame P frame now).1) := by
        simp only [call, Process.step, hsess]
      rw [entry, hstep]
      have hframe := encrypt_frame_eq (P := P) sess frame now
      have hexchange : session_exchange session
          (⟨process, call, .encrypted (sess.encrypt_frame P frame now).1⟩ :
            TransportEntry P) = some (.encrypt frame.payload (frame_aad frame.frame_id) now,
              (sess.step P (.encrypt frame.payload (frame_aad frame.frame_id) now)).2) := by
        rw [hframe]
        exact if_pos rfl
      -- the other sessions see a call on another handle
      refine h.used hsess rfl hexchange (fun other hne => if_neg hne) ?_
      rw [hframe]

theorem decrypt (h : Isolated process log) (session : ℕ) (encrypted : EncryptedFrame)
    (now : UInt64) :
    let call : TransportCall P := .decrypt_frame session encrypted now
    Isolated (process.step P call).1 (entry (Process.step P) process call :: log) := by
  intro call
  cases hsess : process.heap[session]? with
  | none =>
      have hstep : process.step P call = (process, .no_session) := by
        simp only [call, Process.step, hsess]
      rw [entry, hstep]
      exact h.idle rfl (fun _ => rfl) rfl
  | some sess =>
      have hstep : process.step P call =
          ({ process with
              heap := process.heap.set session (sess.decrypt_frame P encrypted now).2 },
            .decrypted (sess.decrypt_frame P encrypted now).1) := by
        simp only [call, Process.step, hsess]
      rw [entry, hstep]
      have hexchange : session_exchange session
          (⟨process, call, .decrypted (sess.decrypt_frame P encrypted now).1⟩ :
            TransportEntry P) = some (.decrypt encrypted.ciphertext
              (frame_aad encrypted.frame_id) now, (sess.decrypt_frame P encrypted now).1) :=
        if_pos rfl
      exact h.used hsess rfl hexchange (fun other hne => if_neg hne) rfl

/-- Every call keeps the sessions apart. -/
theorem step (h : Isolated process log) (call : TransportCall P) :
    Isolated (process.step P call).1 (entry (Process.step P) process call :: log) := by
  cases call with
  | establish_session local_kem remote_public draws session_id now =>
      exact h.establish local_kem remote_public draws session_id now
  | accept_session local_kem encapsulation session_id now =>
      exact h.accept local_kem encapsulation session_id now
  | encrypt_frame session frame now => exact h.encrypt session frame now
  | decrypt_frame session encrypted now => exact h.decrypt session encrypted now
  -- the list changes, and no session is behind it
  | cleanup_expired clock => exact h.idle rfl (fun _ => rfl) rfl

end Isolated

/-- Nothing was handed out yet. -/
theorem isolated_start (session_timeout_secs : UInt64) :
    Isolated (P := P) (Process.start session_timeout_secs) [] := by
  refine ⟨rfl, ?_, fun _ _ => rfl⟩
  intro session start hstart
  cases hstart

/-- **The sessions of a process are isolated.** After any run of a manager, each session is what
its own calls alone make of the session its key exchange returned, and each of those calls was
answered as it would be there. What the run did to other sessions, and whether
`cleanup_expired` has dropped this one, makes no difference. -/
theorem sessions_isolated (P : Primitives) (session_timeout_secs : UInt64)
    (calls : List (TransportCall P)) :
    let run := exec (Process.step P) (Process.start session_timeout_secs) calls
    run.1.heap.length = (sessions_made run.2).length ∧
      ∀ session start, (sessions_made run.2)[session]? = some start →
        let own := session_exchanges session run.2
        let ran := alone P start (own.map Prod.fst)
        run.1.heap[session]? = some ran.1 ∧ exchanges ran.2 = own := by
  intro run
  have hrun : Isolated run.1 run.2 :=
    exec_induction (Process.step P) (isolated_start session_timeout_secs)
      (fun _ _ call h => h.step call) calls
  exact ⟨hrun.count, hrun.own⟩

end SovereignEdgeTee
