/-
The counters of an agent, over whole runs: what they count, and that they add up.

Six counters and fields are written in different arms of two methods. The sum closes
because of coherence, the invariant of `EdgeAgent`: the arm of `process_frame` that counts
a frame neither as offloaded nor as local is never taken. The counters of the source
wrap around, so `Counted` speaks of them modulo `2 ^ 64`, and `agent_accounting` of runs
too short for a counter to wrap.
-/
import SovereignEdgeTee.Spool

set_option autoImplicit false

namespace SovereignEdgeTee

open Mealy

/-! ## What a run is counted by

Everything here is read off the log of the run and never off a counter: how many calls processed
a frame, which source each result named, what the callback was told. `tallied` collects it in the
shape of the agent's own counters, so that `Counted` can state their agreement as one equation. -/

def AgentCall.is_process_frame : AgentCall → Bool
  | .process_frame _ _ => true
  | _ => false

/-- The two modes of a call of the mode-change callback. -/
def Effect.mode_change_args : Effect → Option (AgentMode × AgentMode)
  | .mode_change _ old_mode new_mode => some (old_mode, new_mode)
  | _ => none

/-- The calls lead from `first` to `last`: each starts in the mode the one before it ended
in, and none stays in its mode. -/
def Linked (first : AgentMode) : List (AgentMode × AgentMode) → AgentMode → Prop
  | [], last => first = last
  | (old_mode, new_mode) :: later, last =>
    old_mode = first ∧ old_mode ≠ new_mode ∧ Linked new_mode later last

theorem Linked.concat {first last next : AgentMode} {calls : List (AgentMode × AgentMode)}
    (h : Linked first calls last) (hne : last ≠ next) :
    Linked first (calls ++ [(last, next)]) next := by
  induction calls generalizing first with
  | nil =>
      have hfirst : first = last := h
      exact ⟨hfirst.symm, hne, rfl⟩
  | cons call later ih =>
      obtain ⟨hold, hchange, hlater⟩ := h
      exact ⟨hold, hchange, ih hlater⟩

namespace EdgeAgent

/-- The calls of `process_frame`. -/
def process_calls (log : List LogEntry) : ℕ := log.countP fun e => e.input.is_process_frame

/-- The step returned a result from this source. -/
def has_source (source : InferenceSource) (e : LogEntry) : Bool :=
  match e.output.result with
  | some result => result.source = source
  | none => false

/-- The results that came from `source`. -/
def results_from (source : InferenceSource) (log : List LogEntry) : ℕ :=
  log.countP (has_source source)

/-- The calls of the mode-change callback, oldest first. -/
def notified : List LogEntry → List (AgentMode × AgentMode)
  | [] => []
  | e :: older => notified older ++ e.output.effects.filterMap Effect.mode_change_args

/-- The step, if it processes a frame, stores it as the newest one, under its place among
the frames processed. -/
def StoresNumbered (older : List LogEntry) (e : LogEntry) : Prop :=
  ∀ frame now, e.input = .process_frame frame now →
    (e.before.step e.input).1.context_buffer.frames.getLast?
      = some { frame with frame_id := UInt64.ofNat (process_calls older + 1) }

/-- The counters of an agent that count its frames and its transitions. -/
structure Ledger where
  frame_counter : UInt64
  frames_processed : UInt64
  cloud_offloads : UInt64
  local_inferences : UInt64
  mode_transitions : UInt64

def ledger (self : EdgeAgent) : Ledger where
  frame_counter := self.frame_counter
  frames_processed := self.stats.frames_processed
  cloud_offloads := self.stats.cloud_offloads
  local_inferences := self.stats.local_inferences
  mode_transitions := self.stats.mode_transitions

/-- What the counters should read after a run. -/
def tallied (log : List LogEntry) : Ledger where
  frame_counter := UInt64.ofNat (process_calls log)
  frames_processed := UInt64.ofNat (process_calls log)
  cloud_offloads := UInt64.ofNat (results_from .Cloud log)
  local_inferences := UInt64.ofNat (results_from .Local log)
  mode_transitions := UInt64.ofNat (notified log).length

/-- What holds between two calls: the counters read what they should, every frame is
counted under its source, and the callback has been told every change of mode. -/
structure Counted (agent : EdgeAgent) (log : List LogEntry) : Prop where
  coherent : agent.Coherent
  callback : agent.mode_change_callback.isSome = true
  ledger : agent.ledger = tallied log
  partition : process_calls log = results_from .Cloud log + results_from .Local log
  told_once : (notified log).length ≤ log.length
  linked : Linked .Online (notified log) agent.mode

/-! ## One call

Three calls move no counter and are `quiet`. A report counts a transition just when it tells the
callback one (`update`), and a frame is counted once as processed and once under the source of
its result (`process_frame`); by coherence there are only two arms to look at. -/

/-- The step processes no frame, returns no result and does nothing outside the agent. -/
def Quiet (e : LogEntry) : Prop :=
  e.input.is_process_frame = false ∧ e.output.result = none ∧ e.output.effects = []

theorem Coherent.congr {self self' : EdgeAgent} (h : self.Coherent)
    (hmode : self'.mode = self.mode) (hquality : self'.network_quality = self.network_quality) :
    self'.Coherent := by
  rw [Coherent, hmode, h]
  exact determine_mode_congr hquality.symm

/-- `transition_mode` counts itself and calls the callback once. -/
theorem transition_mode_effects (self : EdgeAgent) (new_mode : AgentMode) {callback : ℕ}
    (hcallback : self.mode_change_callback = some callback) :
    (self.transition_mode new_mode).2 = [.mode_change callback self.mode new_mode] ∧
      (self.transition_mode new_mode).1.mode_change_callback = some callback ∧
      (self.transition_mode new_mode).1.ledger
        = { self.ledger with mode_transitions := self.ledger.mode_transitions + 1 } := by
  cases new_mode <;> simp [transition_mode, ledger, hcallback]

/-- A report either keeps the mode or transitions to another. -/
theorem update_network_quality_cases (self : EdgeAgent) (quality : NetworkQuality) :
    self.update_network_quality quality = ({ self with network_quality := quality }, []) ∨
      ∃ new_mode, self.mode ≠ new_mode ∧
        self.update_network_quality quality
          = { self with network_quality := quality }.transition_mode new_mode := by
  rw [update_network_quality]
  dsimp only
  set reported : EdgeAgent := { self with network_quality := quality } with hreported
  by_cases hchange : reported.determine_mode ≠ self.mode
  · rw [if_pos hchange]
    exact Or.inr ⟨_, fun hsame => hchange hsame.symm, rfl⟩
  · rw [if_neg hchange]
    exact Or.inl rfl

namespace Counted

variable {self self' : EdgeAgent} {log : List LogEntry}

/-- A quiet step that touches no counter and no mode changes nothing. -/
theorem quiet (h : Counted self log) {e : LogEntry} (he : Quiet e) (hcoherent : self'.Coherent)
    (hcallback : self'.mode_change_callback.isSome = true) (hledger : self'.ledger = self.ledger)
    (hmode : self'.mode = self.mode) : Counted self' (e :: log) := by
  obtain ⟨hframe, hresult, heffects⟩ := he
  have hcalls : process_calls (e :: log) = process_calls log :=
    List.countP_cons_of_neg (by simp [hframe])
  have hsource (source : InferenceSource) : results_from source (e :: log)
      = results_from source log :=
    List.countP_cons_of_neg (by simp [has_source, hresult])
  have hnotified : notified (e :: log) = notified log := by
    rw [notified, heffects, List.filterMap_nil, List.append_nil]
  -- both sides of every field are what they were
  refine ⟨hcoherent, hcallback, ?_, ?_, ?_, ?_⟩
  · rw [hledger, h.ledger, tallied, tallied, hcalls, hsource, hsource, hnotified]
  · rw [hcalls, hsource, hsource]
    exact h.partition
  · rw [hnotified]
    exact h.told_once.trans (Nat.le_succ _)
  · rw [hnotified, hmode]
    exact h.linked

/-- A report counts a transition and tells it, or counts none and tells none. -/
theorem update (h : Counted self log) (quality : NetworkQuality) :
    Counted (self.step (.update_network_quality quality)).1
      (entry step self (.update_network_quality quality) :: log) := by
  obtain ⟨callback, hcallback⟩ := Option.isSome_iff_exists.mp h.callback
  obtain ⟨-, hcoherent, -⟩ := self.update_network_quality_spec quality
  have hafter : (self.step (.update_network_quality quality)).1
      = (self.update_network_quality quality).1 := rfl
  have heffects : (entry step self (.update_network_quality quality)).output.effects
      = (self.update_network_quality quality).2 := rfl
  rcases self.update_network_quality_cases quality with hkeep | ⟨new_mode, hchange, hmove⟩
  · -- the mode stays, and nothing is counted or told
    rw [hkeep] at heffects hcoherent
    rw [hafter, hkeep]
    exact h.quiet ⟨rfl, rfl, heffects⟩ hcoherent h.callback rfl rfl
  · set reported : EdgeAgent := { self with network_quality := quality } with hreported
    obtain ⟨htold, hinstalled, hcounted⟩ := reported.transition_mode_effects new_mode hcallback
    obtain ⟨hmode, -, -⟩ := reported.transition_mode_spec new_mode
    rw [hmove] at heffects hcoherent
    rw [hafter, hmove]
    have hcalls : process_calls (entry step self (.update_network_quality quality) :: log)
        = process_calls log := List.countP_cons_of_neg Bool.false_ne_true
    have hsource (source : InferenceSource) :
        results_from source (entry step self (.update_network_quality quality) :: log)
          = results_from source log := List.countP_cons_of_neg Bool.false_ne_true
    -- the callback is told once, and the new link starts where the chain ended
    have hnotified : notified (entry step self (.update_network_quality quality) :: log)
        = notified log ++ [(self.mode, new_mode)] := by
      rw [notified, heffects, htold]
      rfl
    have hsame : reported.ledger = self.ledger := rfl
    refine ⟨hcoherent, ?_, ?_, ?_, ?_, ?_⟩
    · rw [hinstalled]
      rfl
    · rw [hcounted, hsame, h.ledger, tallied, tallied, hcalls, hsource, hsource, hnotified,
        List.length_append, List.length_singleton, UInt64.ofNat_add]
      rfl
    · rw [hcalls, hsource, hsource]
      exact h.partition
    · rw [hnotified, List.length_append, List.length_singleton]
      exact Nat.succ_le_succ h.told_once
    · rw [hnotified, hmode]
      exact h.linked.concat hchange

/-- A step that processes a frame, returns a result from `source` and notifies nobody. -/
theorem processed (h : Counted self log) {e : LogEntry} {source : InferenceSource}
    {result : InferenceResult} (hsource : source = .Cloud ∨ source = .Local)
    (hframe : e.input.is_process_frame = true) (hresult : e.output.result = some result)
    (hfrom : result.source = source)
    (heffects : e.output.effects.filterMap Effect.mode_change_args = [])
    (hcoherent : self'.Coherent) (hcallback : self'.mode_change_callback.isSome = true)
    (hmode : self'.mode = self.mode)
    (hledger : self'.ledger = { self.ledger with
      frame_counter := self.ledger.frame_counter + 1
      frames_processed := self.ledger.frames_processed + 1
      cloud_offloads := self.ledger.cloud_offloads + if source = .Cloud then 1 else 0
      local_inferences := self.ledger.local_inferences + if source = .Local then 1 else 0 }) :
    Counted self' (e :: log) := by
  have hcalls : process_calls (e :: log) = process_calls log + 1 :=
    List.countP_cons_of_pos hframe
  have hresults (s : InferenceSource) :
      results_from s (e :: log) = results_from s log + if source = s then 1 else 0 := by
    rw [results_from, List.countP_cons, results_from]
    congr 1
    simp [has_source, hresult, hfrom]
  have hnotified : notified (e :: log) = notified log := by
    rw [notified, heffects, List.append_nil]
  -- the counter that moves is the one of the source, on both sides
  refine ⟨hcoherent, hcallback, ?_, ?_, ?_, ?_⟩
  · rw [hledger, h.ledger, tallied, tallied, hcalls, hresults, hresults, hnotified]
    rcases hsource with rfl | rfl
    · simp
    · simp
  · rw [hcalls, hresults, hresults, h.partition]
    rcases hsource with rfl | rfl
    · simp
      omega
    · simp
      omega
  · rw [hnotified]
    exact h.told_once.trans (Nat.le_succ _)
  · rw [hnotified, hmode]
    exact h.linked

/-- A frame is counted as processed and under the source of its result. -/
theorem process_frame (h : Counted self log) (frame : TelemetryFrame) (now : UInt64) :
    Counted (self.step (.process_frame frame now)).1
      (entry step self (.process_frame frame now) :: log) := by
  obtain ⟨hmode, hquality⟩ := self.process_frame_mode_quality frame now
  have hanswer := h.coherent.process_frame_eq frame now
  have hafter : (self.step (.process_frame frame now)).1 = (self.process_frame frame now).1 := rfl
  have hresult : (entry step self (.process_frame frame now)).output.result
      = some (self.process_frame frame now).2.1 := rfl
  have heffects : (entry step self (.process_frame frame now)).output.effects
      = (self.process_frame frame now).2.2 := rfl
  have hcoherent := h.coherent.congr hmode hquality
  rw [hafter]
  -- coherence leaves two of the arms, and each counts the source of its result
  by_cases hoffline : self.network_quality.is_offline = true
  · rw [if_pos hoffline] at hanswer
    rw [hanswer] at hresult heffects hcoherent hmode ⊢
    refine h.processed (Or.inr rfl) rfl hresult (process_local_inference_source _ _ _) ?_
      hcoherent h.callback hmode ?_
    · rw [heffects]
      rfl
    · simp [EdgeAgent.ledger, process_local_inference, count_local, buffer_frame]
  · rw [if_neg hoffline] at hanswer
    rw [hanswer] at hresult heffects hcoherent hmode ⊢
    refine h.processed (Or.inl rfl) rfl hresult rfl ?_ hcoherent h.callback hmode ?_
    · rw [heffects]
      rfl
    · simp [EdgeAgent.ledger, count_cloud, buffer_frame]

end Counted

theorem counted_step (self : EdgeAgent) (log : List LogEntry) (call : AgentCall)
    (h : Counted self log) : Counted (self.step call).1 (entry step self call :: log) := by
  cases call with
  | update_network_quality quality => exact h.update quality
  | process_frame frame now => exact h.process_frame frame now
  | probe_network_quality draws now =>
      exact h.quiet ⟨rfl, rfl, rfl⟩ h.coherent h.callback rfl rfl
  | set_local_backend backend => exact h.quiet ⟨rfl, rfl, rfl⟩ h.coherent h.callback rfl rfl
  | set_mode_change_callback callback => exact h.quiet ⟨rfl, rfl, rfl⟩ h.coherent rfl rfl rfl

theorem Counted.stores_numbered {self : EdgeAgent} {log : List LogEntry} (h : Counted self log)
    (call : AgentCall) : StoresNumbered log (entry step self call) := by
  rintro frame now hinput
  have hcall : call = .process_frame frame now := hinput
  subst hcall
  have hid : self.frame_counter + 1 = UInt64.ofNat (process_calls log + 1) := by
    have hcounter : self.frame_counter = UInt64.ofNat (process_calls log) :=
      congrArg Ledger.frame_counter h.ledger
    rw [hcounter, UInt64.ofNat_add]
    rfl
  change (self.process_frame frame now).1.context_buffer.frames.getLast? = _
  rw [process_frame_context_buffer, ContextBuffer.push, List.getLast?_concat, numbered, hid]

/-! ## Whole runs

The callback is installed first and never taken away, so every transition after that is told.
Modulo `2 ^ 64` the counters always agree with the tallies; without the modulus they agree for
as many calls as no counter can wrap in. -/

/-- A fresh agent with this backend and this callback. -/
def equipped (probe_interval_secs : ℕ) (backend : InferenceBackend) (callback : ℕ) : EdgeAgent :=
  ((new probe_interval_secs).set_local_backend backend).set_mode_change_callback callback

theorem equipped_counted (probe_interval_secs : ℕ) (backend : InferenceBackend) (callback : ℕ) :
    Counted (equipped probe_interval_secs backend callback) [] :=
  ⟨new_coherent probe_interval_secs, rfl, rfl, rfl, Nat.le_refl _, rfl⟩

/-- **The accounts of an agent.** In every run of fewer than `2 ^ 64` calls of a fresh agent
with a callback installed the counters count what they say: every frame is processed
under the next number and counted once, as offloaded or as local, and the callback has
seen every change of mode, in order. -/
theorem agent_accounting (probe_interval_secs : ℕ) (backend : InferenceBackend) (callback : ℕ)
    (calls : List AgentCall) (hcalls : calls.length < 2 ^ 64) :
    let run := exec step (equipped probe_interval_secs backend callback) calls
    run.1.stats.frames_processed.toNat = process_calls run.2 ∧
      run.1.frame_counter.toNat = process_calls run.2 ∧
      run.1.stats.cloud_offloads.toNat + run.1.stats.local_inferences.toNat
        = process_calls run.2 ∧
      run.1.stats.cloud_offloads.toNat = results_from .Cloud run.2 ∧
      Guarded StoresNumbered run.2 ∧
      run.1.stats.mode_transitions.toNat = (notified run.2).length ∧
      Linked .Online (notified run.2) run.1.mode := by
  intro run
  have hstart := equipped_counted probe_interval_secs backend callback
  have h : Counted run.1 run.2 := exec_induction step hstart counted_step calls
  have hstored : Guarded StoresNumbered run.2 :=
    exec_guarded step hstart counted_step (fun _ _ call hI => hI.stores_numbered call) calls
  have hlog : run.2.length = calls.length := exec_length step _ calls
  -- no count is as large as the run is long
  have hno_wrap (n : ℕ) (hn : n ≤ run.2.length) : (UInt64.ofNat n).toNat = n := by
    rw [UInt64.toNat_ofNat', Nat.mod_eq_of_lt (by omega)]
  have hprocessed : (UInt64.ofNat (process_calls run.2)).toNat = process_calls run.2 :=
    hno_wrap _ List.countP_le_length
  have hcloud : (UInt64.ofNat (results_from .Cloud run.2)).toNat = results_from .Cloud run.2 :=
    hno_wrap _ List.countP_le_length
  have hlocal : (UInt64.ofNat (results_from .Local run.2)).toNat = results_from .Local run.2 :=
    hno_wrap _ List.countP_le_length
  have hledger := h.ledger
  rw [ledger, tallied, Ledger.mk.injEq] at hledger
  obtain ⟨hcounter, hframes, hclouds, hlocals, htransitions⟩ := hledger
  refine ⟨?_, ?_, ?_, ?_, hstored, ?_, h.linked⟩
  · rw [hframes, hprocessed]
  · rw [hcounter, hprocessed]
  · rw [hclouds, hlocals, hcloud, hlocal]
    exact h.partition.symm
  · rw [hclouds, hcloud]
  · rw [htransitions, hno_wrap _ h.told_once]

/-- The accounts of an agent that goes offline between two frames. -/
theorem agent_accounting_offline :
    let run := exec step (equipped 5 SimulatedBackend 7) [.process_frame sample_frame 0,
      .update_network_quality down, .process_frame sample_frame 1]
    run.1.stats.frames_processed.toNat = process_calls run.2 ∧
      Guarded StoresNumbered run.2 ∧ Linked .Online (notified run.2) run.1.mode := by
  obtain ⟨hprocessed, -, -, -, hstored, -, hlinked⟩ :=
    agent_accounting 5 SimulatedBackend 7 [.process_frame sample_frame 0,
      .update_network_quality down, .process_frame sample_frame 1] (by decide)
  exact ⟨hprocessed, hstored, hlinked⟩

end EdgeAgent

end SovereignEdgeTee
