/-
A manager that threads share: `cleanup_expired` beside the calls that go on meanwhile.

The manager locks its list, and each session is behind a lock of its own. A call takes one of them,
does its work and lets go of it, but `cleanup_expired`, which holds the list and takes the sessions
in turn. So while it sweeps the list, frames still go through the sessions, in front of it and
behind it. `interleavings_sequential` says that this makes no difference that a session or the
list could tell: some order of the calls, one at a time, gives the same state and the same
replies, and each lock sees its own calls in the order in which they held it. Calls of different
sessions may change places, and must: the example at the end drops a session and keeps one that was
used later, as no sweep between two calls would.

An event is a call from the moment it gets its lock to the moment it lets go of it, or one session
of a sweep. What a call does outside of that is no event: the key exchange before a session is
pushed on the list, which no other thread can see; and behind it a line of the log, for which an
exchange locks its session once more to read the id, and the return. So nothing is said about the
order in which calls return. A session is numbered when it is pushed; before that no other thread
can reach it. The clock is taken to be readable, a panic under a lock would poison it.
-/
import SovereignEdgeTee.PqcTransparent

set_option autoImplicit false

namespace SovereignEdgeTee

open Mealy

variable {P : Primitives}

/-! ## Threads

The list and the sessions have locks. A call that needs the list while a sweep has it waits: its
event does nothing, and may come again. A call on a session never waits here, because the sweep
lets go of a session before the next event. -/

/-- The lock of the list, and one for each session. -/
inductive ManagerLock where
  | sessions
  | session (session : ℕ)
deriving DecidableEq

/-- The lock that a call needs. A key exchange that fails does not come to the list. -/
def TransportCall.lock : TransportCall P → Option ManagerLock
  | .encrypt_frame session _ _ => some (.session session)
  | .decrypt_frame session _ _ => some (.session session)
  | .cleanup_expired _ => some .sessions
  | call => call.origin.map fun _ => .sessions

/-- A `cleanup_expired` under way: how many sessions of the list it has checked, and which of
them it keeps. -/
structure Sweep where
  clock : ℕ → UInt64
  checked : ℕ
  kept : List ℕ

/-- A manager with its sessions, and the sweep that has the lock of the list. -/
structure SharedManager where
  process : Process
  sweep : Option Sweep

/-- A thread makes a call, or the one that sweeps goes on. -/
inductive ThreadEvent (P : Primitives) where
  | call (call : TransportCall P)
  | sweep

/-- A call that was served: it has held its lock, or needed none; and its reply. -/
abbrev Served (P : Primitives) := TransportCall P × TransportReply

/-- `is_expired`, behind the lock of the session. -/
def Process.expired (self : Process) (session : ℕ) (now : UInt64) : Bool :=
  (self.heap[session]?.map fun sess =>
    sess.is_expired self.manager.session_timeout_nanos now).getD false

/-- The sweep has come to this session. -/
def Sweep.check (self : Sweep) (process : Process) (session : ℕ) : Sweep where
  clock := self.clock
  checked := self.checked + 1
  kept :=
    if process.expired session (self.clock self.checked) then self.kept
    else self.kept ++ [session]

/-- The list that a sweep leaves. -/
def Process.retain (self : Process) (kept : List ℕ) : Process :=
  { self with manager := { self.manager with sessions := kept } }

namespace SharedManager

def start (session_timeout_secs : UInt64) : SharedManager :=
  ⟨Process.start session_timeout_secs, none⟩

/-- One event, and the call that was served by it. -/
def step (P : Primitives) (self : SharedManager) :
    ThreadEvent P → SharedManager × Option (Served P)
  | .call call =>
    -- the thread waits for the lock
    if self.sweep.isSome ∧ call.lock = some .sessions then (self, none)
    else
      match call with
      | .cleanup_expired clock => ({ self with sweep := some ⟨clock, 0, []⟩ }, none)
      | call =>
        let r := self.process.step P call
        ({ self with process := r.1 }, some (call, r.2))
  | .sweep =>
    match self.sweep with
    | none => (self, none)
    | some sweep =>
      match self.process.manager.sessions[sweep.checked]? with
      | some session =>
        ({ self with sweep := some (sweep.check self.process session) }, none)
      | none =>
        (⟨self.process.retain sweep.kept, none⟩, some (.cleanup_expired sweep.clock,
          .cleaned (self.process.manager.sessions.length - sweep.kept.length)))

/-- A step of the threads. -/
abbrev LogEntry (P : Primitives) := Entry SharedManager (ThreadEvent P) (Option (Served P))

/-- The calls that were served, the last one first. -/
def served (log : List (LogEntry P)) : List (Served P) := log.filterMap Entry.output

end SharedManager

/-- The part of the calls that took this lock, or none. -/
def by_lock (lock : Option ManagerLock) (calls : List (Served P)) : List (Served P) :=
  calls.filter fun x => x.1.lock = lock

/-! ## What a call does under the lock of a session

It reads and writes that session and nothing else of the manager. `Process.use` has this form, and
every call that takes the lock of a session is such a use (`step_locked`). -/

/-- One session is used, and put back. -/
def Process.use (self : Process) (session : ℕ) (f : PqcSession → PqcSession × TransportReply) :
    Process × TransportReply :=
  match self.heap[session]? with
  | none => (self, .no_session)
  | some sess => ({ self with heap := self.heap.set session (f sess).1 }, (f sess).2)

theorem step_locked {call : TransportCall P} {session : ℕ}
    (h : call.lock = some (.session session)) :
    ∃ f, ∀ process : Process, process.step P call = process.use session f := by
  cases call with
  | encrypt_frame handle frame now =>
      cases h
      refine ⟨fun sess => ((sess.encrypt_frame P frame now).2,
        .encrypted (sess.encrypt_frame P frame now).1), fun process => ?_⟩
      cases hsess : process.heap[session]? with
      | none => simp only [Process.step, Process.use, hsess]
      | some sess => simp only [Process.step, Process.use, hsess]
  | decrypt_frame handle encrypted now =>
      cases h
      refine ⟨fun sess => ((sess.decrypt_frame P encrypted now).2,
        .decrypted (sess.decrypt_frame P encrypted now).1), fun process => ?_⟩
      cases hsess : process.heap[session]? with
      | none => simp only [Process.step, Process.use, hsess]
      | some sess => simp only [Process.step, Process.use, hsess]
  | cleanup_expired clock => cases h
  | establish_session local_kem remote_public draws session_id now =>
      obtain ⟨o, -, ho⟩ := Option.map_eq_some_iff.mp h
      cases ho
  | accept_session local_kem encapsulation session_id now =>
      obtain ⟨o, -, ho⟩ := Option.map_eq_some_iff.mp h
      cases ho

/-- A call that needs no lock is a key exchange that fails. -/
theorem step_unlocked {call : TransportCall P} (h : call.lock = none) :
    ∃ reply, ∀ process : Process, process.step P call = (process, reply) := by
  cases call with
  | establish_session local_kem remote_public draws session_id now =>
      cases hsecrets : HybridKem.encapsulation_secrets P remote_public draws with
      | error e =>
          refine ⟨.established (.error e), fun process => ?_⟩
          simp only [Process.step, establish_session_error hsecrets]
      | ok r =>
          simp [TransportCall.lock, TransportCall.origin, hsecrets] at h
  | accept_session local_kem encapsulation session_id now =>
      cases hsecrets : local_kem.peer_secrets encapsulation with
      | error e =>
          refine ⟨.accepted (.error e), fun process => ?_⟩
          simp only [Process.step, accept_session_error hsecrets]
      | ok secrets =>
          simp [TransportCall.lock, TransportCall.origin, hsecrets] at h
  | encrypt_frame session frame now => cases h
  | decrypt_frame session encrypted now => cases h
  | cleanup_expired clock => cases h

/-! ## Calls that do not interfere

Two uses of different sessions can be made in either order, and no use of a session sees or changes
the list. These are the only facts about the calls that the reordering needs. -/

section Interference

variable {call other : TransportCall P}

theorem lock_cases (h : call.lock ≠ some .sessions) :
    call.lock = none ∨ ∃ session, call.lock = some (.session session) := by
  cases hlock : call.lock with
  | none => exact Or.inl rfl
  | some lock =>
      cases lock with
      | sessions => exact absurd hlock h
      | session session => exact Or.inr ⟨session, rfl⟩

/-- Two sessions can be used in either order. -/
theorem use_comm {i j : ℕ} (hne : i ≠ j) (f g : PqcSession → PqcSession × TransportReply)
    (process : Process) :
    (process.use i f).1.use j g = (((process.use j g).1.use i f).1, (process.use j g).2) := by
  unfold Process.use
  cases hi : process.heap[i]? with
  | none =>
      cases hj : process.heap[j]? with
      | none => simp only [hi]
      | some b => simp only [hi, List.getElem?_set_ne hne.symm]
  | some a =>
      cases hj : process.heap[j]? with
      | none => simp only [hi, hj, List.getElem?_set_ne hne]
      | some b =>
          simp only [hi, hj, List.getElem?_set_ne hne, List.getElem?_set_ne hne.symm,
            List.set_comm _ _ hne]

/-- Calls under different locks can be made in either order. -/
theorem step_commutes (hcall : call.lock ≠ some .sessions) (hother : other.lock ≠ some .sessions)
    (hne : call.lock ≠ other.lock) (process : Process) :
    (process.step P call).1.step P other =
      (((process.step P other).1.step P call).1, (process.step P other).2) := by
  -- a call without a lock changes nothing, and two with locks are on two sessions
  rcases lock_cases hcall with hcall | ⟨i, hcall⟩
  · obtain ⟨reply, hstep⟩ := step_unlocked hcall
    rw [hstep, hstep]
  · rcases lock_cases hother with hother | ⟨j, hother⟩
    · obtain ⟨reply, hstep⟩ := step_unlocked hother
      rw [hstep, hstep]
    · obtain ⟨f, hf⟩ := step_locked hcall
      obtain ⟨g, hg⟩ := step_locked hother
      have hij : i ≠ j := by
        rintro rfl
        exact hne (hcall.trans hother.symm)
      rw [hf, hg, hg, hf]
      exact use_comm hij f g process

/-- The list changes under its lock only. -/
theorem step_manager (h : call.lock ≠ some .sessions) (process : Process) :
    (process.step P call).1.manager = process.manager := by
  rcases lock_cases h with h | ⟨session, h⟩
  · obtain ⟨reply, hstep⟩ := step_unlocked h
    rw [hstep]
  · obtain ⟨f, hf⟩ := step_locked h
    rw [hf, Process.use]
    cases process.heap[session]? <;> rfl

/-- It is read under its lock only. -/
theorem step_retain (h : call.lock ≠ some .sessions) (kept : List ℕ) (process : Process) :
    (process.retain kept).step P call =
      ((process.step P call).1.retain kept, (process.step P call).2) := by
  rcases lock_cases h with h | ⟨session, h⟩
  · obtain ⟨reply, hstep⟩ := step_unlocked h
    rw [hstep, hstep]
  · obtain ⟨f, hf⟩ := step_locked h
    rw [hf, hf, Process.use, Process.use, Process.retain]
    cases process.heap[session]? <;> rfl

/-- A session changes under its lock only. -/
theorem step_session {session : ℕ} (hlist : call.lock ≠ some .sessions)
    (hne : call.lock ≠ some (.session session)) (process : Process) :
    (process.step P call).1.heap[session]? = process.heap[session]? := by
  rcases lock_cases hlist with h | ⟨used, h⟩
  · obtain ⟨reply, hstep⟩ := step_unlocked h
    rw [hstep]
  · obtain ⟨f, hf⟩ := step_locked h
    have husedne : used ≠ session := by
      rintro rfl
      exact hne h
    rw [hf, Process.use]
    cases process.heap[used]? with
    | none => rfl
    | some sess => exact List.getElem?_set_ne husedne

end Interference

/-! ## The list

A sweep decides session by session, so what it has kept so far is a function of the list and of
the sessions it has checked (`kept_of_congr`). No session is in the list twice, so none is checked
twice. -/

/-- What a sweep keeps of the sessions it has checked. -/
def Process.kept_of (self : Process) (clock : ℕ → UInt64) (checked : ℕ) : List ℕ :=
  ((self.manager.sessions.take checked).zipIdx.filter fun s =>
    !self.expired s.1 (clock s.2)).map Prod.fst

theorem kept_of_succ {process : Process} {clock : ℕ → UInt64} {checked session : ℕ}
    (h : process.manager.sessions[checked]? = some session) :
    process.kept_of clock (checked + 1) =
      if process.expired session (clock checked) then process.kept_of clock checked
      else process.kept_of clock checked ++ [session] := by
  obtain ⟨hlt, -⟩ := List.getElem?_eq_some_iff.mp h
  have hlength : (process.manager.sessions.take checked).length = checked :=
    List.length_take_of_le hlt.le
  rw [Process.kept_of, List.take_add_one, h, Option.toList_some, List.zipIdx_append,
    List.filter_append, List.map_append, hlength, ← Process.kept_of]
  cases hexpired : process.expired session (clock checked) with
  | true => simp [hexpired]
  | false => simp [hexpired]

theorem kept_of_all {process : Process} {checked : ℕ}
    (h : process.manager.sessions[checked]? = none) (clock : ℕ → UInt64) :
    process.kept_of clock checked = process.unexpired clock := by
  rw [Process.kept_of, List.take_of_length_le (List.getElem?_eq_none_iff.mp h)]
  rfl

/-- A sweep sees nothing but the list and the sessions it has checked. -/
theorem kept_of_congr {process process' : Process} {checked : ℕ}
    (hmanager : process'.manager = process.manager)
    (hheap : ∀ session ∈ process.manager.sessions.take checked,
      process'.heap[session]? = process.heap[session]?) (clock : ℕ → UInt64) :
    process'.kept_of clock checked = process.kept_of clock checked := by
  rw [Process.kept_of, Process.kept_of, hmanager]
  refine congrArg (List.map Prod.fst) (List.filter_congr ?_)
  intro s hs
  rw [Process.expired, Process.expired, hmanager, hheap s.1 (List.fst_mem_of_mem_zipIdx hs)]

/-- No session is in the list twice. -/
structure Listed (process : Process) : Prop where
  nodup : process.manager.sessions.Nodup
  allocated : ∀ session ∈ process.manager.sessions, session < process.heap.length

theorem Listed.add_session {process : Process} (h : Listed process) (sess : PqcSession) :
    Listed (process.add_session sess) := by
  refine ⟨?_, ?_⟩
  · -- the handle of the new session is the length of the heap
    refine List.Nodup.append h.nodup (List.nodup_singleton _) ?_
    intro session hsession hnew
    rw [List.mem_singleton.mp hnew] at hsession
    exact Nat.lt_irrefl _ (h.allocated _ hsession)
  · intro session hsession
    rw [Process.add_session, List.length_append]
    rcases List.mem_append.mp hsession with hsession | hnew
    · exact Nat.lt_succ_of_lt (h.allocated session hsession)
    · rw [List.mem_singleton.mp hnew]
      exact Nat.lt_succ_self _

theorem Listed.use {process : Process} (h : Listed process) (session : ℕ)
    (f : PqcSession → PqcSession × TransportReply) : Listed (process.use session f).1 := by
  unfold Process.use
  cases process.heap[session]? with
  | none => exact h
  | some sess =>
      refine ⟨h.nodup, ?_⟩
      rw [List.length_set]
      exact h.allocated

theorem listed_step {process : Process} (h : Listed process) (call : TransportCall P) :
    Listed (process.step P call).1 := by
  by_cases hlock : call.lock = some .sessions
  · cases call with
    | establish_session local_kem remote_public draws session_id now =>
        cases hsecrets : HybridKem.encapsulation_secrets P remote_public draws with
        | error e =>
            rw [Process.step, establish_session_error hsecrets]
            exact h
        | ok r =>
            rw [Process.step, establish_session_ok hsecrets]
            exact h.add_session _
    | accept_session local_kem encapsulation session_id now =>
        cases hsecrets : local_kem.peer_secrets encapsulation with
        | error e =>
            rw [Process.step, accept_session_error hsecrets]
            exact h
        | ok secrets =>
            rw [Process.step, accept_session_ok hsecrets]
            exact h.add_session _
    | cleanup_expired clock =>
        have hsub : List.Sublist (process.unexpired clock) process.manager.sessions := by
          have hzip := (List.filter_sublist (p := fun s : ℕ × ℕ =>
            !process.expired s.1 (clock s.2)) (l := process.manager.sessions.zipIdx)).map Prod.fst
          rw [List.zipIdx_map_fst] at hzip
          exact hzip
        exact ⟨h.nodup.sublist hsub, fun session hs => h.allocated session (hsub.subset hs)⟩
    | encrypt_frame session frame now => cases hlock
    | decrypt_frame session encrypted now => cases hlock
  · rcases lock_cases hlock with hlock | ⟨session, hlock⟩
    · obtain ⟨reply, hstep⟩ := step_unlocked hlock
      rw [hstep]
      exact h
    · obtain ⟨f, hf⟩ := step_locked hlock
      rw [hf]
      exact h.use session f

/-! ## One order of the calls

The order that is built has the calls in front of the sweep first, then the sweep, then those
behind it. `insert_call` puts a call in front of others that neither see what it changes nor need
its lock: it serves a call whose session the sweep has yet to reach, and the sweep itself at its
end. -/

/-- Calls that are made one at a time. -/
abbrev sequential (P : Primitives) (session_timeout_secs : UInt64)
    (calls : List (TransportCall P)) : Process × List (TransportEntry P) :=
  exec (Process.step P) (Process.start session_timeout_secs) calls

section Insert

variable {after : List (TransportCall P)}

/-- A call has its place among those of its own lock, wherever it is among the others. -/
theorem by_lock_insert {x : Served P} {later older : List (Served P)}
    (h : ∀ y ∈ later, y.1.lock ≠ x.1.lock) (lock : Option ManagerLock) :
    by_lock lock (later ++ x :: older) = by_lock lock (x :: (later ++ older)) := by
  unfold by_lock
  by_cases hx : x.1.lock = lock
  · have hlater : later.filter (fun y => y.1.lock = lock) = [] := by
      refine List.filter_eq_nil_iff.mpr ?_
      intro y hy
      rw [← hx, decide_eq_true_iff]
      exact h y hy
    rw [List.filter_append, hlater, List.nil_append, List.filter_cons_of_pos (by simpa using hx),
      List.filter_cons_of_pos (by simpa using hx), List.filter_append, hlater, List.nil_append]
  · rw [List.filter_append, List.filter_cons_of_neg (by simpa using hx),
      List.filter_cons_of_neg (by simpa using hx), List.filter_append]

theorem by_lock_cons_congr {calls calls' : List (Served P)} {lock : Option ManagerLock}
    (h : by_lock lock calls = by_lock lock calls') (x : Served P) :
    by_lock lock (x :: calls) = by_lock lock (x :: calls') := by
  unfold by_lock at h ⊢
  rw [List.filter_cons, List.filter_cons, h]

/-- A call may be made before others that neither see what it changes nor need its lock. -/
theorem insert_call (session_timeout_secs : UInt64) (before : List (TransportCall P))
    (call : TransportCall P) (change : Process → Process)
    (hchange : ((sequential P session_timeout_secs before).1.step P call).1 =
      change (sequential P session_timeout_secs before).1)
    (hcommutes : ∀ other ∈ after, ∀ process : Process, (change process).step P other =
      (change (process.step P other).1, (process.step P other).2))
    (hlock : ∀ other ∈ after, other.lock ≠ call.lock) :
    let r := sequential P session_timeout_secs (before ++ after)
    let r' := sequential P session_timeout_secs (before ++ [call] ++ after)
    r'.1 = change r.1 ∧ ∀ lock, by_lock lock (exchanges r'.2) =
      by_lock lock ((call, ((sequential P session_timeout_secs before).1.step P call).2) ::
        exchanges r.2) := by
  intro r r'
  have hr : r = _ := exec_append _ _ before after
  have hr' : r' = _ := exec_append _ _ (before ++ [call]) after
  rw [exec_concat, advance, hchange] at hr'
  obtain ⟨hstate, hseen⟩ := exec_commutes (Process.step P) change hcommutes
    (sequential P session_timeout_secs before).1
  rw [hr, hr']
  refine ⟨hstate, fun lock => ?_⟩
  rw [exchanges_append, exchanges_append, hseen]
  refine by_lock_insert ?_ lock
  intro y hy
  exact hlock y.1 (input_mem_of_exchanges hy)

end Insert

/-- A sweep under way, after the calls in front of it: it has kept what it should of the sessions
it has checked, and the calls behind it are on those. -/
structure Swept (process : Process) (sweep : Sweep) (after : List (TransportCall P)) : Prop where
  kept : sweep.kept = process.kept_of sweep.clock sweep.checked
  passed : ∀ call ∈ after, call.lock = none ∨
    ∃ session ∈ process.manager.sessions.take sweep.checked, call.lock = some (.session session)

/-- The calls that were served can be made one at a time: those in front of the sweep, and those
behind it. -/
structure Serialised (session_timeout_secs : UInt64) (shared : SharedManager)
    (served : List (Served P)) (before after : List (TransportCall P)) : Prop where
  process : (sequential P session_timeout_secs (before ++ after)).1 = shared.process
  order : ∀ lock, by_lock lock
    (exchanges (sequential P session_timeout_secs (before ++ after)).2) = by_lock lock served
  idle : shared.sweep = none → after = []
  swept : ∀ sweep, shared.sweep = some sweep →
    Swept (sequential P session_timeout_secs before).1 sweep after

namespace Serialised

variable {session_timeout_secs : UInt64} {shared : SharedManager} {served : List (Served P)}
  {before after : List (TransportCall P)} {call : TransportCall P} {sweep : Sweep}

/-- The calls behind a sweep do not need its lock. -/
theorem no_list (h : Serialised session_timeout_secs shared served before after)
    (hsweep : shared.sweep = some sweep) : ∀ other ∈ after, other.lock ≠ some .sessions := by
  intro other hother
  rcases (h.swept sweep hsweep).passed other hother with hlock | ⟨session, -, hlock⟩
  · rw [hlock]
    exact Option.some_ne_none _ |>.symm
  · rw [hlock]
    exact fun heq => ManagerLock.noConfusion (Option.some.inj heq)

theorem sweep_begins (h : Serialised session_timeout_secs shared served before after)
    (hsweep : shared.sweep = none) (clock : ℕ → UInt64) :
    Serialised session_timeout_secs ⟨shared.process, some ⟨clock, 0, []⟩⟩ served before
      after := by
  refine ⟨h.process, h.order, fun hnone => absurd hnone (Option.some_ne_none _), ?_⟩
  intro sweep hsome
  cases hsome
  rw [h.idle hsweep]
  exact ⟨rfl, fun other hother => absurd hother List.not_mem_nil⟩

/-- What the calls behind the sweep do not change is as it was in front of it. -/
theorem unchanged (h : Serialised session_timeout_secs shared served before after) {α : Type}
    (view : Process → α)
    (hview : ∀ other ∈ after, ∀ process : Process, view (process.step P other).1 = view process) :
    view shared.process = view (sequential P session_timeout_secs before).1 := by
  rw [← h.process, sequential, exec_append]
  exact exec_unchanged (Process.step P) view hview _

theorem manager_eq (h : Serialised session_timeout_secs shared served before after)
    (hsweep : shared.sweep = some sweep) :
    shared.process.manager = (sequential P session_timeout_secs before).1.manager :=
  h.unchanged Process.manager fun other hother process =>
    step_manager (h.no_list hsweep other hother) process

/-- A call that is served now is the last one. -/
theorem concat (h : Serialised session_timeout_secs shared served before after)
    (call : TransportCall P) :
    let r := sequential P session_timeout_secs (before ++ after ++ [call])
    r.1 = (shared.process.step P call).1 ∧ ∀ lock, by_lock lock (exchanges r.2) =
      by_lock lock ((call, (shared.process.step P call).2) :: served) := by
  intro r
  refine ⟨?_, fun lock => ?_⟩
  · rw [← h.process]
    exact congrArg Prod.fst (exec_concat _ _ _ call)
  · rw [← h.process]
    exact (congrArg (by_lock lock) (exchanges_concat _ _ _ call)).trans
      (by_lock_cons_congr (h.order lock) _)

/-- No sweep is under way. -/
theorem call_idle (h : Serialised session_timeout_secs shared served before after)
    (hsweep : shared.sweep = none) (call : TransportCall P) :
    Serialised session_timeout_secs ⟨(shared.process.step P call).1, none⟩
      ((call, (shared.process.step P call).2) :: served) (before ++ [call]) [] := by
  obtain ⟨hprocess, horder⟩ := h.concat call
  rw [h.idle hsweep, List.append_nil] at hprocess horder
  refine ⟨?_, ?_, fun _ => rfl, fun sweep hsome => absurd hsome (Option.some_ne_none _).symm⟩
  · rw [List.append_nil]
    exact hprocess
  · rw [List.append_nil]
    exact horder

/-- The sweep has passed the session of the call. -/
theorem call_behind (h : Serialised session_timeout_secs shared served before after)
    (hsweep : shared.sweep = some sweep)
    (hpassed : call.lock = none ∨ ∃ session ∈
      (sequential P session_timeout_secs before).1.manager.sessions.take sweep.checked,
        call.lock = some (.session session)) :
    Serialised session_timeout_secs ⟨(shared.process.step P call).1, some sweep⟩
      ((call, (shared.process.step P call).2) :: served) before (after ++ [call]) := by
  obtain ⟨hprocess, horder⟩ := h.concat call
  rw [List.append_assoc] at hprocess horder
  refine ⟨hprocess, horder, fun hnone => absurd hnone (Option.some_ne_none _), ?_⟩
  intro _ hsome
  cases hsome
  obtain ⟨hkept, hafter⟩ := h.swept sweep hsweep
  refine ⟨hkept, ?_⟩
  intro other hother
  rcases List.mem_append.mp hother with hother | hother
  · exact hafter other hother
  · rw [List.mem_singleton.mp hother]
    exact hpassed

/-- The sweep has yet to come to the session of the call. -/
theorem call_front (h : Serialised session_timeout_secs shared served before after)
    (hsweep : shared.sweep = some sweep) (hlist : call.lock ≠ some .sessions)
    (hfront : ¬ (call.lock = none ∨ ∃ session ∈
      (sequential P session_timeout_secs before).1.manager.sessions.take sweep.checked,
        call.lock = some (.session session))) :
    Serialised session_timeout_secs ⟨(shared.process.step P call).1, some sweep⟩
      ((call, (shared.process.step P call).2) :: served) (before ++ [call]) after := by
  obtain ⟨hkept, hafter⟩ := h.swept sweep hsweep
  have hafterlist := h.no_list hsweep
  -- the calls behind the sweep are on sessions it has passed, so not on this one
  have hne : ∀ other ∈ after, other.lock ≠ call.lock := by
    intro other hother heq
    rcases hafter other hother with hlock | ⟨session, hsession, hlock⟩
    · exact hfront (Or.inl (heq.symm.trans hlock))
    · exact hfront (Or.inr ⟨session, hsession, heq.symm.trans hlock⟩)
  have hcommutes : ∀ other ∈ after, ∀ process : Process, (process.step P call).1.step P other =
      (((process.step P other).1.step P call).1, (process.step P other).2) :=
    fun other hother process =>
      step_commutes hlist (hafterlist other hother) (hne other hother).symm process
  obtain ⟨hstate, hseen⟩ := insert_call session_timeout_secs before call
    (fun process => (process.step P call).1) rfl hcommutes hne
  have hreply : (shared.process.step P call).2 =
      ((sequential P session_timeout_secs before).1.step P call).2 := by
    refine h.unchanged (fun process => (process.step P call).2) ?_
    intro other hother process
    rw [step_commutes (hafterlist other hother) hlist (hne other hother) process]
  have hbefore : (sequential P session_timeout_secs (before ++ [call])).1 =
      ((sequential P session_timeout_secs before).1.step P call).1 :=
    congrArg Prod.fst (exec_concat _ _ before call)
  refine ⟨?_, ?_, fun hnone => absurd hnone (Option.some_ne_none _), ?_⟩
  · rw [hstate, h.process]
  · intro lock
    rw [hseen, hreply]
    exact by_lock_cons_congr (h.order lock) _
  · intro _ hsome
    cases hsome
    rw [hbefore]
    refine ⟨?_, ?_⟩
    · rw [hkept]
      -- the sessions that were checked are as they were
      refine (kept_of_congr (step_manager hlist _) ?_ _).symm
      intro session hsession
      exact step_session hlist (fun hlock => hfront (Or.inr ⟨session, hsession, hlock⟩)) _
    · rw [step_manager hlist]
      exact hafter

/-- The sweep comes to the next session. -/
theorem sweep_checks (h : Serialised session_timeout_secs shared served before after)
    (hsweep : shared.sweep = some sweep) {session : ℕ}
    (hsession : shared.process.manager.sessions[sweep.checked]? = some session) :
    Serialised session_timeout_secs ⟨shared.process, some (sweep.check shared.process session)⟩
      served before after := by
  obtain ⟨hkept, hafter⟩ := h.swept sweep hsweep
  have hmanager := h.manager_eq hsweep
  have hlisted : Listed (sequential P session_timeout_secs before).1 :=
    exec_induction (Process.step P) (I := fun process _ => Listed process)
      ⟨List.nodup_nil, fun _ h => absurd h List.not_mem_nil⟩
      (fun _ _ call h => listed_step h call) before
  rw [hmanager] at hsession
  -- a session is checked once, so no call behind the sweep was on this one
  have hfresh : session ∉
      (sequential P session_timeout_secs before).1.manager.sessions.take sweep.checked := by
    obtain ⟨hlt, hget⟩ := List.getElem?_eq_some_iff.mp hsession
    intro hmem
    obtain ⟨i, hi, hgeti⟩ := List.mem_take_iff_getElem.mp hmem
    have heq := hlisted.nodup.getElem_inj_iff.mp (hgeti.trans hget.symm)
    omega
  have hheap : shared.process.heap[session]? =
      (sequential P session_timeout_secs before).1.heap[session]? := by
    refine h.unchanged (fun process => process.heap[session]?) ?_
    intro other hother process
    refine step_session (h.no_list hsweep other hother) ?_ process
    rcases hafter other hother with hlock | ⟨passed, hpassed, hlock⟩
    · rw [hlock]
      exact (Option.some_ne_none _).symm
    · rw [hlock]
      intro heq
      cases heq
      exact hfresh hpassed
  have hexpired : shared.process.expired session (sweep.clock sweep.checked) =
      (sequential P session_timeout_secs before).1.expired session
        (sweep.clock sweep.checked) := by
    rw [Process.expired, Process.expired, hheap, hmanager]
  refine ⟨h.process, h.order, fun hnone => absurd hnone (Option.some_ne_none _), ?_⟩
  intro _ hsome
  cases hsome
  refine ⟨?_, ?_⟩
  · rw [Sweep.check, kept_of_succ hsession, hexpired, hkept]
  · intro other hother
    rcases hafter other hother with hlock | ⟨passed, hpassed, hlock⟩
    · exact Or.inl hlock
    · exact Or.inr ⟨passed, (List.take_subset_take_left _ (Nat.le_succ _)) hpassed, hlock⟩

/-- The sweep is over, and takes its place among the calls. -/
theorem sweep_ends (h : Serialised session_timeout_secs shared served before after)
    (hsweep : shared.sweep = some sweep)
    (hend : shared.process.manager.sessions[sweep.checked]? = none) :
    Serialised session_timeout_secs ⟨shared.process.retain sweep.kept, none⟩
      ((.cleanup_expired sweep.clock,
        .cleaned (shared.process.manager.sessions.length - sweep.kept.length)) :: served)
      (before ++ [.cleanup_expired sweep.clock] ++ after) [] := by
  have hmanager := h.manager_eq hsweep
  rw [hmanager] at hend ⊢
  have hkept : sweep.kept =
      (sequential P session_timeout_secs before).1.unexpired sweep.clock := by
    rw [(h.swept sweep hsweep).kept]
    exact kept_of_all hend sweep.clock
  rw [hkept]
  -- it goes behind the calls on sessions it had yet to come to, and in front of the others
  obtain ⟨hstate, hseen⟩ := insert_call session_timeout_secs before
    (.cleanup_expired sweep.clock)
    (fun process => process.retain
      ((sequential P session_timeout_secs before).1.unexpired sweep.clock)) rfl
    (fun other hother process => step_retain (h.no_list hsweep other hother) _ process)
    (h.no_list hsweep)
  refine ⟨?_, ?_, fun _ => rfl, fun sweep hsome => absurd hsome (Option.some_ne_none _).symm⟩
  · rw [List.append_nil, hstate, h.process]
  · intro lock
    rw [List.append_nil, hseen]
    exact by_lock_cons_congr (h.order lock) _

end Serialised

/-! ## Steps

Each event keeps `Serialised`, with the cases of `SharedManager.step`: a thread that waits, a sweep
that begins, a call beside a sweep or without one, and a sweep that goes on or ends. -/

namespace SharedManager

variable {shared : SharedManager}

/-- The calls that were served after one more step. -/
theorem served_cons (event : ThreadEvent P) (log : List (LogEntry P)) :
    served (entry (step P) shared event :: log) =
      (shared.step P event).2.toList ++ served log := by
  rw [served, List.filterMap_cons, ← served, entry]
  cases (shared.step P event).2 <;> rfl

theorem step_cleanup (hsweep : shared.sweep = none) (clock : ℕ → UInt64) :
    shared.step P (.call (.cleanup_expired clock)) =
      (⟨shared.process, some ⟨clock, 0, []⟩⟩, none) := by
  rw [step, hsweep, if_neg (fun hwait => Bool.false_ne_true hwait.1)]

theorem step_call {call : TransportCall P}
    (hwait : ¬ (shared.sweep.isSome ∧ call.lock = some .sessions))
    (hcall : ∀ clock, call ≠ .cleanup_expired clock) :
    shared.step P (.call call) =
      (⟨(shared.process.step P call).1, shared.sweep⟩,
        some (call, (shared.process.step P call).2)) := by
  cases call with
  | cleanup_expired clock => exact absurd rfl (hcall clock)
  | _ => exact if_neg hwait

end SharedManager

theorem serialised_call {session_timeout_secs : UInt64} {shared : SharedManager}
    {served : List (Served P)} {before after : List (TransportCall P)}
    (h : Serialised session_timeout_secs shared served before after) (call : TransportCall P) :
    let r := shared.step P (.call call)
    ∃ before after, Serialised session_timeout_secs r.1 (r.2.toList ++ served) before after := by
  intro r
  by_cases hwait : shared.sweep.isSome ∧ call.lock = some .sessions
  · -- the thread waits, and nothing happens
    have hr : r = (shared, none) := if_pos hwait
    rw [hr]
    exact ⟨before, after, h⟩
  · by_cases hcleanup : ∃ clock, call = .cleanup_expired clock
    · obtain ⟨clock, rfl⟩ := hcleanup
      have hsweep : shared.sweep = none := by
        by_contra hsome
        exact hwait ⟨Option.isSome_iff_ne_none.mpr hsome, rfl⟩
      have hr : r = _ := SharedManager.step_cleanup hsweep clock
      rw [hr]
      exact ⟨before, after, h.sweep_begins hsweep clock⟩
    · have hr : r = _ := SharedManager.step_call hwait (not_exists.mp hcleanup)
      rw [hr]
      cases hsweep : shared.sweep with
      | none => exact ⟨_, _, h.call_idle hsweep call⟩
      | some sweep =>
          have hlist : call.lock ≠ some .sessions :=
            fun hlock => hwait ⟨by rw [hsweep]; rfl, hlock⟩
          by_cases hpassed : call.lock = none ∨ ∃ session ∈
              (sequential P session_timeout_secs before).1.manager.sessions.take sweep.checked,
                call.lock = some (.session session)
          · exact ⟨_, _, h.call_behind hsweep hpassed⟩
          · exact ⟨_, _, h.call_front hsweep hlist hpassed⟩

theorem serialised_sweep {session_timeout_secs : UInt64} {shared : SharedManager}
    {served : List (Served P)} {before after : List (TransportCall P)}
    (h : Serialised session_timeout_secs shared served before after) :
    let r := shared.step P .sweep
    ∃ before after, Serialised session_timeout_secs r.1 (r.2.toList ++ served) before after := by
  intro r
  have hr : r = shared.step P .sweep := rfl
  cases hsweep : shared.sweep with
  | none =>
      rw [SharedManager.step, hsweep] at hr
      rw [hr]
      exact ⟨before, after, h⟩
  | some sweep =>
      cases hsession : shared.process.manager.sessions[sweep.checked]? with
      | some session =>
          simp only [SharedManager.step, hsweep, hsession] at hr
          rw [hr]
          exact ⟨before, after, h.sweep_checks hsweep hsession⟩
      | none =>
          simp only [SharedManager.step, hsweep, hsession] at hr
          rw [hr]
          exact ⟨_, _, h.sweep_ends hsweep hsession⟩

/-- **Threads can be put in order.** Whatever threads do with a manager, and however the calls
that go on during a `cleanup_expired` interleave with it, the calls that were served could have
been made one at a time in some order. It ends with the same list and the same sessions, with the
same reply to every call, and the calls that need one lock (those of a session, or those of the
list) are in the order in which they held it. The order is built along the run: `Serialised` keeps
the calls in front of the sweep and those behind it, a call goes to the end of one of the two
(`call_behind`, `call_front`), and at its end the sweep goes between them (`sweep_ends`). -/
theorem interleavings_sequential (P : Primitives) (session_timeout_secs : UInt64)
    (events : List (ThreadEvent P)) :
    let run := exec (SharedManager.step P) (SharedManager.start session_timeout_secs) events
    ∃ calls : List (TransportCall P),
      let r := exec (Process.step P) (Process.start session_timeout_secs) calls
      r.1 = run.1.process ∧
        ∀ lock, by_lock lock (exchanges r.2) = by_lock lock (SharedManager.served run.2) := by
  intro run
  have hstart : Serialised (P := P) session_timeout_secs
      (SharedManager.start session_timeout_secs) [] [] [] :=
    ⟨rfl, fun _ => rfl, fun _ => rfl, fun _ hsome => absurd hsome (Option.some_ne_none _).symm⟩
  -- a sweep that is still under way at the end still holds its lock, and has no place
  obtain ⟨before, after, h⟩ : ∃ before after, Serialised session_timeout_secs run.1
      (SharedManager.served run.2) before after := by
    refine exec_induction (SharedManager.step P) (I := fun shared log => ∃ before after,
      Serialised session_timeout_secs shared (SharedManager.served log) before after)
      ⟨[], [], hstart⟩ ?_ events
    rintro shared log event ⟨before, after, h⟩
    rw [SharedManager.served_cons]
    cases event with
    | call call => exact serialised_call h call
    | sweep => exact serialised_sweep h
  exact ⟨before ++ after, h.process, h.order⟩

/-- Both sessions have expired. The sweep has passed the first one when that is used, and finds
the second one used. -/
example :
    let first : TransportCall .transparent :=
      .encrypt_frame 0 (Transparent.telemetry 1 [7]) 400000000000
    let second : TransportCall .transparent :=
      .encrypt_frame 1 (Transparent.telemetry 1 [7]) 400000000000
    let cleanup : TransportCall .transparent := .cleanup_expired fun _ => 400000000000
    (exec (SharedManager.step .transparent) (SharedManager.start 300)
        [.call (Transparent.establish 1), .call (Transparent.establish 2), .call cleanup, .sweep,
          .call first, .call second, .sweep, .sweep]).1.process.manager.sessions = [1] ∧
      ∀ calls ∈ [[cleanup, first, second], [first, cleanup, second], [first, second, cleanup]],
        (sequential .transparent 300
          (Transparent.establish 1 :: Transparent.establish 2 :: calls)).1.manager.sessions
            ≠ [1] := by
  decide

end SovereignEdgeTee
