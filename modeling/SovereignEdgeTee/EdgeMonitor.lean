/-
`start_monitoring` and `stop` of `crates/edge-agent/src/lib.rs`, and the threads they start
and stop.

The threads share one flag with the agent, and do nothing but look at it and sleep. So the
state is the flag and the threads in the order they were started, and an event is a call
or one look of one thread. The flag starts out false (`EdgeAgent::new`) and no event sets
it: a thread that looks at it leaves, whether it was told to stop or not.
-/
import SovereignEdgeTee.Mealy

set_option autoImplicit false

namespace SovereignEdgeTee

open Mealy

/-- A thread of `start_monitoring`. -/
inductive MonitorThread where
  | monitoring
  | finished
deriving DecidableEq

structure Monitor where
  running : Bool
  threads : List MonitorThread
deriving DecidableEq

/-- A call of a method, or the check of `while *handle.lock().unwrap()` by a thread. -/
inductive MonitorEvent where
  | start_monitoring
  | stop
  | check (thread : ℕ)
deriving DecidableEq

/-- What an event shows: a thread leaves its loop, or goes on, or there is no such thread
in a loop, or the event is a call. -/
inductive MonitorReply where
  | left (thread : ℕ)
  | goes_on (thread : ℕ)
  | no_check
  | returned
deriving DecidableEq

namespace Monitor

/-- The flag of `EdgeAgent::new`, before any thread. -/
def new : Monitor := ⟨false, []⟩

/-- `EdgeAgent::start_monitoring`. The flag is shared, not set. -/
def start_monitoring (self : Monitor) : Monitor :=
  { self with threads := self.threads ++ [.monitoring] }

def stop (self : Monitor) : Monitor := { self with running := false }

/-- One check of a thread, at the head of its loop. -/
def check (self : Monitor) (thread : ℕ) : Monitor × MonitorReply :=
  if self.threads[thread]? = some .monitoring then
    if self.running then (self, .goes_on thread)
    else ({ self with threads := self.threads.set thread .finished }, .left thread)
  else (self, .no_check)

/-- One event. -/
def step (self : Monitor) : MonitorEvent → Monitor × MonitorReply
  | .start_monitoring => (self.start_monitoring, .returned)
  | .stop => (self.stop, .returned)
  | .check thread => self.check thread

/-- A step of the monitor. -/
abbrev LogEntry := Entry Monitor MonitorEvent MonitorReply

/-- The run of `events` on a new agent. -/
def run (events : List MonitorEvent) : Monitor × List LogEntry := exec step new events

/-! ## Leaving the loop

The flag is down in every state of every run (`step_running`), since `start_monitoring` hands
it to the thread without raising it. So a check of a thread that is in its loop always leaves,
and leaving after a `stop` is the same as first looking after a `stop`. The two guards are
compared entry by entry, under that one invariant. -/

/-- `stop` was called after the call that started `thread`. -/
def StoppedSinceStart (thread : ℕ) (log : List LogEntry) : Prop :=
  ∃ e ∈ log, e.input = .stop ∧ thread < e.before.threads.length

/-- A thread that leaves was told to stop. -/
def LeavesStopped (older : List LogEntry) (e : LogEntry) : Prop :=
  ∀ thread, e.output = .left thread → StoppedSinceStart thread older

/-- A thread in its loop looks at the flag only after it was told to stop. -/
def ChecksStopped (older : List LogEntry) (e : LogEntry) : Prop :=
  ∀ thread, e.input = .check thread → e.before.threads[thread]? = some .monitoring →
    StoppedSinceStart thread older

/-- Nothing sets the flag. -/
theorem step_running (self : Monitor) (event : MonitorEvent) (h : self.running = false) :
    (self.step event).1.running = false := by
  cases event with
  | start_monitoring => exact h
  | stop => rfl
  | check thread =>
      rw [step, check]
      split
      · split
        · exact h
        · exact h
      · exact h

/-- With the flag down a check leaves the loop, if the thread is in it. -/
theorem check_left_iff (self : Monitor) (h : self.running = false) (event : MonitorEvent)
    (thread : ℕ) :
    (self.step event).2 = .left thread ↔
      event = .check thread ∧ self.threads[thread]? = some .monitoring := by
  cases event with
  | start_monitoring => simp [step]
  | stop => simp [step]
  | check looking =>
      rw [step, check, h]
      -- only a thread that is in its loop answers at all
      by_cases hloop : self.threads[looking]? = some .monitoring
      · rw [if_pos hloop, if_neg (by decide), MonitorReply.left.injEq, MonitorEvent.check.injEq]
        constructor
        · rintro rfl
          exact ⟨rfl, hloop⟩
        · intro hsame
          exact hsame.1
      · rw [if_neg hloop]
        constructor
        · intro hleft
          cases hleft
        · rintro ⟨hsame, hthread⟩
          rw [MonitorEvent.check.injEq] at hsame
          rw [hsame] at hloop
          exact absurd hthread hloop

/-- Leaving and looking are the same in a step from a state with the flag down. -/
theorem leaves_stopped_iff (self : Monitor) (h : self.running = false) (log : List LogEntry)
    (event : MonitorEvent) :
    LeavesStopped log (entry step self event) ↔ ChecksStopped log (entry step self event) := by
  constructor
  · intro hleaves thread hinput hloop
    exact hleaves thread ((self.check_left_iff h event thread).mpr ⟨hinput, hloop⟩)
  · intro hchecks thread hleft
    obtain ⟨hinput, hloop⟩ := (self.check_left_iff h event thread).mp hleft
    exact hchecks thread hinput hloop

/-- **When threads run until stopped.** In a run every thread that leaves its loop was told
to stop after it was started just when no thread looks at the flag before that. -/
theorem leaves_stopped_run_iff (events : List MonitorEvent) :
    Guarded LeavesStopped (run events).2 ↔ Guarded ChecksStopped (run events).2 := by
  have hrun := exec_induction step (s := new)
    (I := fun monitor log => monitor.running = false ∧
      (Guarded LeavesStopped log ↔ Guarded ChecksStopped log)) ⟨rfl, Iff.rfl⟩ ?_ events
  · exact hrun.2
  · rintro monitor log event ⟨hflag, ih⟩
    refine ⟨step_running monitor event hflag, ?_⟩
    rw [Guarded, Guarded, ih, monitor.leaves_stopped_iff hflag]

/-- A thread that was just started leaves, though nothing was stopped. -/
theorem started_thread_leaves :
    ¬ Guarded LeavesStopped (run [.start_monitoring, .check 0]).2 := by
  rintro ⟨hleaves, -⟩
  -- the log before the check holds the start and nothing else
  obtain ⟨e, he, hstop, -⟩ := hleaves 0 rfl
  rw [List.mem_singleton.mp he] at hstop
  cases hstop

end Monitor

end SovereignEdgeTee
