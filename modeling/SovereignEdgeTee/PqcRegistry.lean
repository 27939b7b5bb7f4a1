/-
The list of sessions a manager keeps: what puts a session on it and what takes one off.

`establish_session` and `accept_session` add the session they make, and nothing if they
fail. `cleanup_expired` drops the sessions that have been idle for longer than the timeout.
The timeout is given in seconds and kept in nanoseconds, and the product wraps around from
18446744074 seconds on: such a manager drops sessions long before their time. All the rest
of the arithmetic is sound, for clocks that run backwards too (`is_expired_eq`).
-/
import SovereignEdgeTee.PqcTransparent

set_option autoImplicit false

namespace SovereignEdgeTee

open Mealy

variable {P : Primitives}

/-- How long the session has been idle, negative if the clock was put back. -/
def PqcSession.idle (self : PqcSession) (now : UInt64) : ℤ :=
  (now.toNat : ℤ) - self.last_activity.toNat

/-- The timeout in nanoseconds, in unbounded integers. -/
def timeout_nanos (session_timeout_secs : UInt64) : ℤ := session_timeout_secs.toNat * 1000000000

/-- The timeout in nanoseconds, as the manager keeps it. -/
def wrapped_nanos (session_timeout_secs : UInt64) : ℤ :=
  timeout_nanos session_timeout_secs % 2 ^ 64

/-- The sessions of the list that have not been idle for longer than `limit`, in their
order. `clock k` is the reading at the check of the `k`-th session. -/
def Process.kept (self : Process) (limit : ℤ) (clock : ℕ → UInt64) : List ℕ :=
  (self.manager.sessions.zipIdx.filter fun s =>
    !((self.heap[s.1]?.map fun session =>
      decide (session.idle (clock s.2) > limit)).getD false)).map Prod.fst

/-- The sessions a call has taken off the list. -/
def TransportReply.removed : TransportReply → ℕ
  | .cleaned removed => removed
  | _ => 0

/-- The reply is an error. -/
def TransportReply.is_failed_exchange : TransportReply → Bool
  | .established (.error _) => true
  | .accepted (.error _) => true
  | _ => false

/-- The number of successful `establish_session` and `accept_session` calls. -/
def made (log : List (TransportEntry P)) : ℕ := log.countP fun e => e.output.handle.isSome

/-- The number of sessions taken off the list. -/
def removed (log : List (TransportEntry P)) : ℕ := (log.map fun e => e.output.removed).sum

/-- The step does to the list what it should: a clean-up keeps the sessions within the
timeout, in their order, and returns the number of the others, and a key exchange that
fails leaves everything as it is. -/
structure Managed (session_timeout_secs : UInt64) (e : TransportEntry P) : Prop where
  cleaned : ∀ clock, e.input = .cleanup_expired clock →
    (e.before.step P e.input).1.manager.sessions
        = e.before.kept (timeout_nanos session_timeout_secs) clock ∧
      ∃ removed, e.output = .cleaned removed ∧
        removed + (e.before.kept (timeout_nanos session_timeout_secs) clock).length
          = e.before.session_count
  failed : e.output.is_failed_exchange = true → (e.before.step P e.input).1 = e.before

/-- The list after a run, and all that the run has done to it. -/
structure Registry (session_timeout_secs : UInt64) (process : Process)
    (log : List (TransportEntry P)) : Prop where
  count : process.session_count + removed log = made log
  managed : ∀ e ∈ log, Managed session_timeout_secs e

/-- The step, if it is a clean-up, finds no session that has been idle for longer than the
wrapped timeout, unless the timeout does not wrap. -/
def TimeoutFits (session_timeout_secs : UInt64) (e : TransportEntry P) : Prop :=
  ∀ clock, e.input = .cleanup_expired clock →
    timeout_nanos session_timeout_secs < 2 ^ 64 ∨
      ∀ s ∈ e.before.manager.sessions.zipIdx, ∀ sess, e.before.heap[s.1]? = some sess →
        sess.idle (clock s.2) ≤ wrapped_nanos session_timeout_secs

/-! ## The check of one session

`is_expired` subtracts in `u64` and saturates at zero; in the integers the idle time is just
the difference, negative where the clock was put back, and both compare alike with the
timeout. What remains of the arithmetic is the product in `PqcTransportManager::new`, which is
taken modulo `2 ^ 64`. -/

/-- The saturating difference compares as the integers do. -/
theorem is_expired_eq (sess : PqcSession) (timeout now : UInt64) :
    sess.is_expired timeout now = decide (sess.idle now > timeout.toNat) := by
  rw [PqcSession.is_expired, PqcSession.idle]
  by_cases hback : now < sess.last_activity
  · have hlt : now.toNat < sess.last_activity.toNat := UInt64.lt_iff_toNat_lt.mp hback
    rw [if_pos hback]
    -- a clock that was put back: zero is above no timeout, and neither is a negative number
    refine decide_eq_decide.mpr ?_
    rw [gt_iff_lt, UInt64.lt_iff_toNat_lt]
    show timeout.toNat < 0 ↔ _
    omega
  · have hle : sess.last_activity.toNat ≤ now.toNat :=
      UInt64.le_iff_toNat_le.mp (UInt64.not_lt.mp hback)
    rw [if_neg hback]
    refine decide_eq_decide.mpr ?_
    rw [gt_iff_lt, UInt64.lt_iff_toNat_lt, UInt64.toNat_sub_of_le _ _ (UInt64.not_lt.mp hback)]
    omega

/-- The timeout a manager is built with. -/
theorem new_timeout (session_timeout_secs : UInt64) :
    ((PqcTransportManager.new session_timeout_secs).session_timeout_nanos.toNat : ℤ)
      = wrapped_nanos session_timeout_secs := by
  rw [PqcTransportManager.new, UInt64.toNat_mul, wrapped_nanos, timeout_nanos]
  norm_cast

theorem idle_lt (sess : PqcSession) (now : UInt64) : sess.idle now < 2 ^ 64 := by
  rw [PqcSession.idle]
  have hnow := now.toNat_lt
  omega

/-! ## One clean-up

A clean-up is a filter, so which sessions it keeps is a matter of each session by itself. As
no session is idle for `2 ^ 64` nanoseconds, a timeout that wraps should remove nothing at
all; it removes the sessions that are older than what is left of it. -/

/-- A clean-up applies the timeout that the manager keeps. -/
theorem unexpired_eq (process : Process) (clock : ℕ → UInt64) :
    process.unexpired clock
      = process.kept process.manager.session_timeout_nanos.toNat clock := by
  simp only [Process.unexpired, Process.kept, is_expired_eq]

theorem length_kept_le (process : Process) (limit : ℤ) (clock : ℕ → UInt64) :
    (process.kept limit clock).length ≤ process.session_count := by
  rw [Process.kept, Process.session_count, List.length_map]
  exact (List.length_filter_le _ _).trans_eq List.length_zipIdx

/-- All sessions are kept just when none has been idle for longer than the limit. -/
theorem kept_eq_sessions_iff (process : Process) (limit : ℤ) (clock : ℕ → UInt64) :
    process.kept limit clock = process.manager.sessions ↔
      ∀ s ∈ process.manager.sessions.zipIdx, ∀ sess, process.heap[s.1]? = some sess →
        sess.idle (clock s.2) ≤ limit := by
  have hkeeps : process.kept limit clock = process.manager.sessions ↔
      (process.manager.sessions.zipIdx.filter fun s =>
        !((process.heap[s.1]?.map fun session =>
          decide (session.idle (clock s.2) > limit)).getD false))
        = process.manager.sessions.zipIdx := by
    constructor
    · -- a filter that drops nothing has nothing to drop
      intro h
      have hlength := congrArg List.length h
      rw [Process.kept, List.length_map] at hlength
      exact List.filter_sublist.eq_of_length (hlength.trans List.length_zipIdx.symm)
    · intro h
      rw [Process.kept, h, List.zipIdx_map_fst]
  rw [hkeeps, List.filter_eq_self]
  refine forall₂_congr fun s _ => ?_
  -- every handle of the list has a session, but nothing here depends on it
  rcases process.heap[s.1]? with _ | sess
  · simp
  · simp

/-- A clean-up keeps the right sessions just when the timeout fits. -/
theorem unexpired_eq_iff {process : Process} {session_timeout_secs : UInt64}
    (htimeout : process.manager.session_timeout_nanos
      = (PqcTransportManager.new session_timeout_secs).session_timeout_nanos)
    (clock : ℕ → UInt64) :
    process.unexpired clock = process.kept (timeout_nanos session_timeout_secs) clock ↔
      timeout_nanos session_timeout_secs < 2 ^ 64 ∨
        ∀ s ∈ process.manager.sessions.zipIdx, ∀ sess, process.heap[s.1]? = some sess →
          sess.idle (clock s.2) ≤ wrapped_nanos session_timeout_secs := by
  rw [unexpired_eq, htimeout, new_timeout]
  by_cases hfits : timeout_nanos session_timeout_secs < 2 ^ 64
  · have hpos : 0 ≤ timeout_nanos session_timeout_secs := by
      rw [timeout_nanos]
      omega
    rw [wrapped_nanos, Int.emod_eq_of_lt hpos hfits]
    exact iff_of_true rfl (Or.inl hfits)
  · -- no session can be as old as a timeout that wraps, so all should be kept
    have hall : process.kept (timeout_nanos session_timeout_secs) clock
        = process.manager.sessions := by
      apply (kept_eq_sessions_iff _ _ _).mpr
      intro s _ sess _
      exact (idle_lt sess _).le.trans (not_lt.mp hfits)
    rw [hall, kept_eq_sessions_iff]
    exact (or_iff_right hfits).symm

/-! ## One call

`manager_step` says what a call can do to the list, with the reply it gives. The counting
lemma, the failing exchanges and the equivalence for one step are read off it. -/

/-- A call adds the session it has made to the list, or cleans the list up, or leaves the
list and the number of sessions as they are. -/
theorem manager_step (process : Process) (call : TransportCall P) :
    (∃ sess, (process.step P call).1 = process.add_session sess ∧
      (process.step P call).2.handle.isSome = true ∧ (process.step P call).2.removed = 0) ∨
    (∃ clock, call = .cleanup_expired clock ∧
      process.step P call
        = ((process.cleanup_expired clock).2, .cleaned (process.cleanup_expired clock).1)) ∨
    ((process.step P call).1.manager = process.manager ∧
      (process.step P call).1.heap.length = process.heap.length ∧
      (process.step P call).2.handle.isSome = false ∧ (process.step P call).2.removed = 0) := by
  cases call with
  | establish_session local_kem remote_public draws session_id now =>
      rw [Process.step, Process.establish_session]
      rcases local_kem.encapsulate_to_peer remote_public draws with e | ⟨encapsulation, shared_key⟩
      · exact Or.inr (Or.inr ⟨rfl, rfl, rfl, rfl⟩)
      · exact Or.inl ⟨_, rfl, rfl, rfl⟩
  | accept_session local_kem encapsulation session_id now =>
      rw [Process.step, Process.accept_session]
      rcases local_kem.decapsulate_from_peer encapsulation with e | shared_key
      · exact Or.inr (Or.inr ⟨rfl, rfl, rfl, rfl⟩)
      · exact Or.inl ⟨_, rfl, rfl, rfl⟩
  | encrypt_frame session frame now =>
      rw [Process.step]
      rcases process.heap[session]? with _ | sess
      · exact Or.inr (Or.inr ⟨rfl, rfl, rfl, rfl⟩)
      · exact Or.inr (Or.inr ⟨rfl, List.length_set, rfl, rfl⟩)
  | decrypt_frame session encrypted now =>
      rw [Process.step]
      rcases process.heap[session]? with _ | sess
      · exact Or.inr (Or.inr ⟨rfl, rfl, rfl, rfl⟩)
      · exact Or.inr (Or.inr ⟨rfl, List.length_set, rfl, rfl⟩)
  | cleanup_expired clock => exact Or.inr (Or.inl ⟨clock, rfl, rfl⟩)

/-- A key exchange that fails changes nothing. -/
theorem failed_exchange (process : Process) (call : TransportCall P)
    (hfailed : (process.step P call).2.is_failed_exchange = true) :
    (process.step P call).1 = process := by
  cases call with
  | establish_session local_kem remote_public draws session_id now =>
      rw [Process.step, Process.establish_session] at hfailed ⊢
      rcases hkem : local_kem.encapsulate_to_peer remote_public draws with e | keyed
      · rfl
      · rw [hkem] at hfailed
        cases hfailed
  | accept_session local_kem encapsulation session_id now =>
      rw [Process.step, Process.accept_session] at hfailed ⊢
      rcases hkem : local_kem.decapsulate_from_peer encapsulation with e | shared_key
      · rfl
      · rw [hkem] at hfailed
        cases hfailed
  | encrypt_frame session frame now =>
      rw [Process.step] at hfailed ⊢
      rcases hsess : process.heap[session]? with _ | sess
      · rfl
      · rw [hsess] at hfailed
        cases hfailed
  | decrypt_frame session encrypted now =>
      rw [Process.step] at hfailed ⊢
      rcases hsess : process.heap[session]? with _ | sess
      · rfl
      · rw [hsess] at hfailed
        cases hfailed
  | cleanup_expired clock => cases hfailed

/-- A call never changes the timeout. -/
theorem step_timeout (process : Process) (call : TransportCall P) :
    (process.step P call).1.manager.session_timeout_nanos
      = process.manager.session_timeout_nanos := by
  rcases manager_step process call with ⟨sess, hnew, -⟩ | ⟨clock, -, hclean⟩ | ⟨hsame, -⟩
  · rw [hnew, Process.add_session]
  · rw [hclean, Process.cleanup_expired]
  · rw [hsame]

/-- The list grows by the session a call has made, and shrinks by those it has removed. -/
theorem step_count (process : Process) (call : TransportCall P) :
    (process.step P call).1.session_count + (process.step P call).2.removed
      = process.session_count + if (process.step P call).2.handle.isSome then 1 else 0 := by
  rcases manager_step process call with
    ⟨sess, hnew, hhandle, hremoved⟩ | ⟨clock, -, hclean⟩ | ⟨hsame, -, hhandle, hremoved⟩
  · rw [hnew, hhandle, hremoved, Process.add_session, Process.session_count, List.length_append]
    rfl
  · have hle := length_kept_le process process.manager.session_timeout_nanos.toNat clock
    rw [← unexpired_eq] at hle
    rw [hclean, Process.cleanup_expired]
    exact Nat.add_sub_cancel' hle
  · rw [Process.session_count, hsame, hhandle, hremoved]
    rfl

/-- A step does to the list what it should just when the timeout fits. -/
theorem managed_iff {process : Process} {session_timeout_secs : UInt64}
    (htimeout : process.manager.session_timeout_nanos
      = (PqcTransportManager.new session_timeout_secs).session_timeout_nanos)
    (call : TransportCall P) :
    Managed session_timeout_secs (entry (Process.step P) process call) ↔
      TimeoutFits session_timeout_secs (entry (Process.step P) process call) := by
  constructor
  · -- the list alone gives it away
    rintro ⟨hcleaned, -⟩ clock rfl
    exact (unexpired_eq_iff htimeout clock).mp (hcleaned clock rfl).1
  · intro hfits
    refine ⟨?_, failed_exchange process call⟩
    rintro clock rfl
    have hkept := (unexpired_eq_iff htimeout clock).mpr (hfits clock rfl)
    refine ⟨hkept, _, rfl, ?_⟩
    have hle := length_kept_le process (timeout_nanos session_timeout_secs) clock
    show process.manager.sessions.length - (process.unexpired clock).length + _ = _
    rw [hkept]
    exact Nat.sub_add_cancel hle

/-! ## Runs

The timeout never changes and the counts add up in every run, so the equivalence on one step
is an equivalence on runs, entry by entry. -/

/-- The manager of every step keeps the timeout it was built with. -/
theorem timeout_kept (session_timeout_secs : UInt64) (calls : List (TransportCall P)) :
    ∀ e ∈ (exec (Process.step P) (Process.start session_timeout_secs) calls).2,
      e.before.manager.session_timeout_nanos
        = (PqcTransportManager.new session_timeout_secs).session_timeout_nanos := by
  apply Guarded.forall
  refine exec_guarded (Process.step P) (I := fun process _ =>
    process.manager.session_timeout_nanos
      = (PqcTransportManager.new session_timeout_secs).session_timeout_nanos) rfl ?_ ?_ calls
  · intro process _ call htimeout
    rw [step_timeout, htimeout]
  · intro process _ call htimeout
    exact htimeout

/-- Every session made is on the list or has been removed from it. -/
theorem session_count_eq (session_timeout_secs : UInt64) (calls : List (TransportCall P)) :
    let run := exec (Process.step P) (Process.start session_timeout_secs) calls
    run.1.session_count + removed run.2 = made run.2 := by
  refine exec_induction (Process.step P) (I := fun process log =>
    process.session_count + removed log = made log) rfl ?_ calls
  intro process log call ih
  have hcount := step_count process call
  have hmade : made (entry (Process.step P) process call :: log)
      = made log + if (process.step P call).2.handle.isSome then 1 else 0 := List.countP_cons
  have hremoved : removed (entry (Process.step P) process call :: log)
      = (process.step P call).2.removed + removed log := List.sum_cons
  rw [hmade, hremoved]
  omega

/-- **When the registry is right.** In a run every clean-up removes the sessions that have
been idle for longer than the timeout, and no others, and all other promises about the list
are kept, just when the timeout fits at every clean-up. -/
theorem registry_iff (session_timeout_secs : UInt64) (calls : List (TransportCall P)) :
    let run := exec (Process.step P) (Process.start session_timeout_secs) calls
    Registry session_timeout_secs run.1 run.2 ↔
      ∀ e ∈ run.2, TimeoutFits session_timeout_secs e := by
  intro run
  have hstep : ∀ e ∈ run.2,
      (Managed session_timeout_secs e ↔ TimeoutFits session_timeout_secs e) := by
    intro e he
    -- an entry is the step from the state it was left in
    have hentry : e = entry (Process.step P) e.before e.input := by
      rw [entry, ← exec_output (Process.step P) _ calls e he]
    have htimeout := timeout_kept session_timeout_secs calls e he
    rw [hentry]
    exact managed_iff htimeout e.input
  constructor
  · rintro ⟨-, hmanaged⟩ e he
    exact (hstep e he).mp (hmanaged e he)
  · intro hfits
    refine ⟨session_count_eq session_timeout_secs calls, ?_⟩
    intro e he
    exact (hstep e he).mpr (hfits e he)

/-- A timeout of 18446744074 s wraps to 0.29 s: a clean-up after one second removes the
session, 584 years before its time. -/
theorem wrapped_timeout_removes :
    let run := exec (Process.step .transparent) (Process.start 18446744074)
      [Transparent.establish 1, .cleanup_expired fun _ => 1000000000]
    run.1.session_count = 0 ∧ ¬ Registry 18446744074 run.1 run.2 := by
  refine ⟨by decide, ?_⟩
  intro hregistry
  have hcleaned := ((hregistry.managed _ List.mem_cons_self).cleaned _ rfl).1
  -- the list is empty, and should hold the session still
  have hempty : [] = [0] := hcleaned
  cases hempty

end SovereignEdgeTee
