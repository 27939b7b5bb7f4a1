/-
`crates/edge-agent/src/main.rs`: the program that looks for accelerators, loads a model if it was
given one, and has an agent process five frames.

The calls it makes do not depend on what they return, so the program is the run of a list of
calls. What that list is depends on the arguments, the files, the library and the clock, and
`main_does` says what comes of it: what is done outside, what each frame is answered and how it
is counted. A clock before 1970 ends the program with the panic of `now_ns`; what was done before
that is not kept.

The port and the texts of the log are left out, nothing else reads them. So is the thread that
`start_monitoring` spawns: it looks at the running flag, which is down, and leaves (`EdgeMonitor`).
The runtime, the subscriber of the log and the parsing of the arguments are taken to succeed.
-/
import SovereignEdgeTee.EdgeAnswers
import SovereignEdgeTee.EdgeHardware

set_option autoImplicit false

namespace SovereignEdgeTee

open Mealy

/-! ## Loading a model

A model is loaded under the name of its file. The library may refuse it, and what it gives
otherwise answers the calls to come as it likes. -/

/-- `path.file_stem()`: the last component, up to its last dot if something is before that. -/
def file_stem (path : List UInt8) : Option (List UInt8) :=
  let components := (path.splitOn '/'.toUInt8).filter fun c => c ≠ [] ∧ c ≠ as_bytes "."
  match components.getLast? with
  | none => none
  | some file_name =>
    if file_name = as_bytes ".." then none
    else
      match file_name.reverse.dropWhile fun byte => byte ≠ '.'.toUInt8 with
      | _ :: c :: before => some (c :: before).reverse
      | _ => some file_name

/-- The library: `LlamaBackend::init`, and `LlamaModel::load_from_file` for a path and a number
of layers, with what the model that was loaded answers after the calls of it. An error is its
text. -/
structure LlamaLibrary where
  init : Except String Unit
  load_from_file : List UInt8 → UInt32 → Except String (List (String × ℕ) → LlamaModel)

def LlamaCppBackend.load (library : LlamaLibrary) (model_path : List UInt8) (gpu_layers : UInt32) :
    Except AgentError LoadedBackend :=
  match library.init with
  | .error e => .error (.InferenceFailed ("llama init: " ++ e))
  | .ok () =>
    match library.load_from_file model_path gpu_layers with
    | .error e => .error (.InferenceFailed ("model load: " ++ e))
    | .ok model => .ok ⟨model, ((file_stem model_path).map Utf8.from_utf8_lossy).getD "unknown"⟩

/-! ## The program

`main` reads its arguments, detects, loads, and then makes calls on an agent. The list of
these calls is put together first (`setup_calls`, `frame_calls`), since it depends on nothing
the calls return; where a call takes the time, building the list reads the clock and may
panic. `run` of `EdgeAgent` does the rest. -/

/-- The arguments, with their defaults. -/
structure EdgeArgs where
  probe_interval : UInt64 := 5
  mode : String := "online"
  model : Option (List UInt8) := none
  gpu_layers : UInt32 := 0

namespace EdgeArgs

/-- The layers a model is loaded with. -/
def offloaded_layers (args : EdgeArgs) (fs : FileSystem) : UInt32 :=
  if fs.detect_accelerators.any Accelerator.supports_llama_offload then args.gpu_layers else 0

/-- What `load_llama_backend` installs. A build without the library installs nothing, and
neither does a model that fails to load. -/
def loaded_backend (args : EdgeArgs) (fs : FileSystem) (llama : Option LlamaLibrary) :
    Option InferenceBackend :=
  match args.model, llama with
  | some model_path, some library =>
    match LlamaCppBackend.load library model_path (args.offloaded_layers fs) with
    | .ok backend => some (backend.boxed [])
    | .error _ => none
  | _, _ => none

/-- The report that forces the mode. -/
def forced_quality (args : EdgeArgs) (measured_at : UInt64) : Option NetworkQuality :=
  if args.mode = "offline" then
    some ⟨F64.ofInt 10000, F64.ofInt 100, F64.ofInt 0, F64.ofInt 0, measured_at⟩
  else if args.mode = "degraded" then
    some ⟨F64.ofInt 300, F64.ofInt 10, F64.ofInt 60, F64.ofInt 5, measured_at⟩
  else none

/-- The `i`-th frame of the demo. -/
def demo_frame (i : ℕ) : TelemetryFrame where
  frame_id := 0
  source_ip := "192.168.1.1"
  dest_ip := none
  timestamp_ns := 0
  payload := as_bytes ("telemetry-data-" ++ toString i)

/-- That report, with the reading of the clock that goes into it. The outer `none` is a panic. -/
def forced_report (args : EdgeArgs) (time : SystemTime) : Option (Option NetworkQuality) :=
  if args.mode = "offline" ∨ args.mode = "degraded" then time.now_ns.map args.forced_quality
  else some none

/-- The calls before the loop. The one callback of the program is number 0. -/
def setup_calls (args : EdgeArgs) (fs : FileSystem) (llama : Option LlamaLibrary)
    (forced : Option NetworkQuality) : List AgentCall :=
  (args.loaded_backend fs llama).toList.map .set_local_backend ++ [.set_mode_change_callback 0] ++
    forced.toList.map .update_network_quality

/-- The first `n` rounds of the loop. `none` is a panic. -/
def frame_calls (clock : ℕ → SystemTime) (n : ℕ) : Option (List AgentCall) :=
  (List.range n).mapM fun i => do
    let now ← (clock (i + 1)).now_ns
    return .process_frame (demo_frame i) now

/-- `main`: the agent at the end, and what it did. The clock is read for the report, as `0`, if
there is one, and for the frames. `none` is a panic. -/
def main (args : EdgeArgs) (fs : FileSystem) (llama : Option LlamaLibrary)
    (clock : ℕ → SystemTime) : Option (EdgeAgent × List EdgeAgent.LogEntry) := do
  let forced ← args.forced_report (clock 0)
  let frames ← frame_calls clock 5
  return EdgeAgent.run args.probe_interval.toNat (args.setup_calls fs llama forced ++ frames)

/-! ## What it does

`Demo` is the invariant of the loop, indexed by the number of frames: what the agent holds, and
what was done and answered so far. It holds behind the calls before the loop for each of the
three modes (`demo_setup`), and a frame carries it on (`Demo.frame`). The proofs are about
readings of the clock, `now`; a program that does not panic has them (`main_eq`).
-/

/-- What was done outside, oldest first. -/
def effects (log : List EdgeAgent.LogEntry) : List Effect :=
  log.reverse.flatMap fun e => e.output.effects

/-- The results, oldest first. -/
def results (log : List EdgeAgent.LogEntry) : List InferenceResult :=
  log.reverse.filterMap fun e => e.output.result

variable (args : EdgeArgs)

/-- The report in force while the frames are processed. -/
def reported (measured_at : UInt64) : NetworkQuality :=
  (args.forced_quality measured_at).getD EdgeAgent.initial_quality

/-- The backend that is asked. -/
def installed (fs : FileSystem) (llama : Option LlamaLibrary) : InferenceBackend :=
  (args.loaded_backend fs llama).getD SimulatedBackend

/-- What the backend is asked for the first `n` frames, newest first. -/
def prompts (n : ℕ) : List (String × ℕ) :=
  ((List.range n).map fun i => (EdgeAgent.local_prompt (demo_frame i), 32)).reverse

/-- The change of mode that the report makes. -/
def forced_effects : List Effect :=
  if args.mode = "offline" then [.mode_change 0 .Online .Offline]
  else if args.mode = "degraded" then [.mode_change 0 .Online .Degraded]
  else []

/-- What is done with the `i`-th frame. -/
def frame_effect (i : ℕ) : Effect :=
  if args.mode = "offline" then .local_inference (EdgeAgent.local_prompt (demo_frame i)) 32
  else .cloud_offload { demo_frame i with frame_id := UInt64.ofNat (i + 1) }

/-- What the `i`-th frame is answered. -/
def frame_result (fs : FileSystem) (llama : Option LlamaLibrary) (now : ℕ → UInt64) (i : ℕ) :
    InferenceResult :=
  if args.mode = "offline" then
    EdgeAgent.local_result
      ((args.installed fs llama).infer_after (prompts i) (EdgeAgent.local_prompt (demo_frame i)) 32)
      ((args.installed fs llama).name_after (prompts (i + 1))) (now (i + 1))
  else (EdgeAgent.process_cloud_offload (demo_frame i) (now (i + 1))).1

/-- The statistics after `n` frames. -/
def frame_stats (n : ℕ) : AgentStats where
  frames_processed := UInt64.ofNat n
  cloud_offloads := if args.mode = "offline" then 0 else UInt64.ofNat n
  local_inferences := if args.mode = "offline" then UInt64.ofNat n else 0
  mode_transitions := UInt64.ofNat args.forced_effects.length
  probe_count := 0

/-- The calls before the loop, with these readings of the clock. -/
def readable_setup (fs : FileSystem) (llama : Option LlamaLibrary) (now : ℕ → UInt64) :
    List AgentCall := args.setup_calls fs llama (args.forced_quality (now 0))

/-- The first `n` rounds, with these readings. -/
def readable_frames (now : ℕ → UInt64) (n : ℕ) : List AgentCall :=
  (List.range n).map fun i => .process_frame (demo_frame i) (now (i + 1))

/-- Every reading that the program makes can be made: the one for the report, if there is one,
and one for each frame. -/
def Readable (clock : ℕ → SystemTime) : Prop :=
  (args.mode = "offline" ∨ args.mode = "degraded" → (clock 0).SinceEpoch) ∧
    ∀ i < 5, (clock (i + 1)).SinceEpoch

instance Readable.decidable (clock : ℕ → SystemTime) : Decidable (args.Readable clock) :=
  inferInstanceAs (Decidable (_ ∧ _))

/-- What those readings are. -/
def readings (clock : ℕ → SystemTime) : ℕ → UInt64 := fun i => (clock i).as_nanos

section Demo

open EdgeAgent

variable {args}

theorem effects_cons (e : LogEntry) (log : List LogEntry) :
    effects (e :: log) = effects log ++ e.output.effects := by
  rw [effects, List.reverse_cons, List.flatMap_append, List.flatMap_singleton]
  rfl

theorem results_cons (e : LogEntry) (log : List LogEntry) :
    results (e :: log) = results log ++ e.output.result.toList := by
  rw [results, List.reverse_cons, List.filterMap_append, results, List.filterMap_cons]
  cases e.output.result with
  | none => rfl
  | some result => rfl

/-- The newest prompt is that of the last frame. -/
theorem prompts_succ (n : ℕ) :
    prompts (n + 1) = (local_prompt (demo_frame n), 32) :: prompts n := by
  rw [prompts, List.range_succ, List.map_append, List.reverse_append]
  rfl

/-- The link counts as down where the mode is forced to that. -/
theorem reported_is_offline (measured_at : UInt64) :
    (args.reported measured_at).is_offline = decide (args.mode = "offline") := by
  unfold reported forced_quality NetworkQuality.is_offline
  by_cases hoffline : args.mode = "offline"
  · rw [if_pos hoffline, decide_eq_true hoffline, Option.getD_some]
    dsimp only
    decide +kernel
  · rw [if_neg hoffline, decide_eq_false hoffline]
    by_cases hdegraded : args.mode = "degraded"
    · rw [if_pos hdegraded, Option.getD_some]
      dsimp only
      decide +kernel
    · rw [if_neg hdegraded, Option.getD_none]
      decide +kernel

/-- A backend that was installed has not been asked anything. -/
theorem installed_calls (fs : FileSystem) (llama : Option LlamaLibrary) :
    (args.installed fs llama).calls = [] := by
  unfold installed loaded_backend
  split
  · split
    · rfl
    · rfl
  · rfl

/-- What holds behind `n` frames. -/
structure Demo (args : EdgeArgs) (fs : FileSystem) (llama : Option LlamaLibrary)
    (now : ℕ → UInt64) (n : ℕ) (agent : EdgeAgent) (log : List LogEntry) : Prop where
  answering : Answering agent log
  report : last_report log = args.reported (now 0)
  backend : last_backend log = args.installed fs llama
  asked : asked log = if args.mode = "offline" then prompts n else []
  calls : process_calls log = n
  effects : effects log = args.forced_effects ++ (List.range n).map args.frame_effect
  results : results log = (List.range n).map (args.frame_result fs llama now)
  stats : agent.stats = args.frame_stats n

variable {fs : FileSystem} {llama : Option LlamaLibrary} {now : ℕ → UInt64} {n : ℕ}
  {agent : EdgeAgent} {log : List LogEntry}

namespace Demo

/-- What the next frame is answered, and what is done with it. -/
theorem output_eq (h : Demo args fs llama now n agent log) :
    (entry step agent (.process_frame (demo_frame n) (now (n + 1)))).output =
      ⟨some (args.frame_result fs llama now n), none, [args.frame_effect n]⟩ := by
  rw [h.answering.replied (.process_frame (demo_frame n) (now (n + 1))) _ _ rfl, reply_of,
    h.report, reported_is_offline, h.calls, frame_result, frame_effect]
  by_cases hoffline : args.mode = "offline"
  · have hasked : EdgeAgent.asked log = prompts n := h.asked.trans (if_pos hoffline)
    rw [if_pos (decide_eq_true hoffline), if_pos hoffline, if_pos hoffline, local_answer,
      h.backend, hasked, prompts_succ]
  · rw [if_neg (by rw [decide_eq_false hoffline]; decide), if_neg hoffline, if_neg hoffline]
    rfl

theorem stats_eq (h : Demo args fs llama now n agent log) :
    (agent.step (.process_frame (demo_frame n) (now (n + 1)))).1.stats =
      args.frame_stats (n + 1) := by
  have hquality : agent.network_quality.is_offline = decide (args.mode = "offline") := by
    rw [h.answering.reported, h.report, reported_is_offline]
  rw [step, h.answering.coherent.process_frame_eq, hquality, frame_stats, UInt64.ofNat_add]
  have hstats := h.stats
  rw [frame_stats] at hstats
  by_cases hoffline : args.mode = "offline"
  · rw [if_pos hoffline, if_pos hoffline] at hstats
    rw [if_pos (decide_eq_true hoffline), if_pos hoffline, if_pos hoffline,
      process_local_inference_eq]
    simp only [count_local, buffer_frame, hstats]
    rfl
  · rw [if_neg hoffline, if_neg hoffline] at hstats
    rw [if_neg (by rw [decide_eq_false hoffline]; decide), if_neg hoffline, if_neg hoffline]
    simp only [count_cloud, buffer_frame, hstats]
    rfl

/-- One round of the loop. -/
theorem frame (h : Demo args fs llama now n agent log) :
    Demo args fs llama now (n + 1)
      (agent.step (.process_frame (demo_frame n) (now (n + 1)))).1
      (entry step agent (.process_frame (demo_frame n) (now (n + 1))) :: log) where
  answering := answering_step agent log _ h.answering
  report := h.report
  backend := h.backend
  asked := by
    rw [Answering.asked_frame, h.report, reported_is_offline, h.asked]
    by_cases hoffline : args.mode = "offline"
    · rw [if_pos (decide_eq_true hoffline), if_pos hoffline, if_pos hoffline, prompts_succ]
    · rw [if_neg (by rw [decide_eq_false hoffline]; decide), if_neg hoffline, if_neg hoffline]
  calls := by
    rw [process_calls, List.countP_cons_of_pos rfl]
    exact congrArg (· + 1) h.calls
  effects := by
    rw [effects_cons, h.output_eq, h.effects, List.range_succ, List.map_append,
      List.append_assoc]
    rfl
  results := by
    rw [results_cons, h.output_eq, h.results, List.range_succ, List.map_append]
    rfl
  stats := h.stats_eq

end Demo

theorem frame_stats_zero (args : EdgeArgs) :
    args.frame_stats 0 = ⟨0, 0, 0, UInt64.ofNat args.forced_effects.length, 0⟩ := by
  unfold frame_stats
  split
  · rfl
  · rfl

/-- A report that forces another mode tells the callback, and counts. -/
theorem forced_update {quality : NetworkQuality} {new_mode : AgentMode}
    (hmode : agent.mode = .Online) (hcallback : agent.mode_change_callback = some 0)
    (hforced : { agent with network_quality := quality }.determine_mode = new_mode)
    (hne : new_mode ≠ .Online) :
    (agent.update_network_quality quality).2 = [.mode_change 0 .Online new_mode] ∧
      (agent.update_network_quality quality).1.stats =
        { agent.stats with mode_transitions := agent.stats.mode_transitions + 1 } := by
  rw [update_network_quality]
  dsimp only
  rw [hforced, if_pos (by rw [hmode]; exact hne)]
  cases new_mode <;> simp [transition_mode, hmode, hcallback]

/-- The run before the report: the agent is online, and nothing was counted or done. -/
theorem started (probe_interval_secs : ℕ) (backend : Option InferenceBackend) :
    let r := EdgeAgent.run probe_interval_secs
      (backend.toList.map .set_local_backend ++ [.set_mode_change_callback 0])
    (r.1.mode = .Online ∧ r.1.mode_change_callback = some 0 ∧ r.1.stats = ⟨0, 0, 0, 0, 0⟩) ∧
      (last_report r.2 = initial_quality ∧ last_backend r.2 = backend.getD SimulatedBackend ∧
        EdgeAgent.asked r.2 = (backend.getD SimulatedBackend).calls ∧ process_calls r.2 = 0) ∧
      effects r.2 = [] ∧ results r.2 = [] := by
  cases backend with
  | none => exact ⟨⟨rfl, rfl, rfl⟩, ⟨rfl, rfl, rfl, rfl⟩, rfl, rfl⟩
  | some backend => exact ⟨⟨rfl, rfl, rfl⟩, ⟨rfl, rfl, rfl, rfl⟩, rfl, rfl⟩

theorem setup_answering (args : EdgeArgs) (fs : FileSystem) (llama : Option LlamaLibrary)
    (now : ℕ → UInt64) :
    Answering (EdgeAgent.run args.probe_interval.toNat (args.readable_setup fs llama now)).1
      (EdgeAgent.run args.probe_interval.toNat (args.readable_setup fs llama now)).2 :=
  exec_induction step (answering_new args.probe_interval.toNat) answering_step _

theorem run_concat (probe_interval_secs : ℕ) (calls : List AgentCall) (call : AgentCall) :
    EdgeAgent.run probe_interval_secs (calls ++ [call]) =
      advance step (EdgeAgent.run probe_interval_secs calls) call :=
  exec_concat step _ calls call

/-- The run behind a report that forces another mode. -/
theorem Demo.of_forced {quality : NetworkQuality} {new_mode : AgentMode}
    (hquality : args.forced_quality (now 0) = some quality)
    (heffects : args.forced_effects = [.mode_change 0 .Online new_mode])
    (hforced : ∀ agent : EdgeAgent,
      { agent with network_quality := quality }.determine_mode = new_mode)
    (hne : new_mode ≠ .Online) :
    Demo args fs llama now 0
      (EdgeAgent.run args.probe_interval.toNat (args.readable_setup fs llama now)).1
      (EdgeAgent.run args.probe_interval.toNat (args.readable_setup fs llama now)).2 := by
  have hanswering := args.setup_answering fs llama now
  have hcalls : (args.installed fs llama).calls = [] := installed_calls fs llama
  obtain ⟨⟨hmode, hcallback, hstats⟩, ⟨-, hbackend, hasked, hprocessed⟩, hdone, hresults⟩ :=
    started args.probe_interval.toNat (args.loaded_backend fs llama)
  rw [readable_setup, setup_calls, hquality, Option.toList_some, List.map_singleton, run_concat]
    at hanswering ⊢
  -- what went before matters by the facts from `started` alone
  generalize EdgeAgent.run _ _ = before at *
  obtain ⟨htold, hcounted⟩ := forced_update hmode hcallback (hforced _) hne
  refine ⟨hanswering, ?_, hbackend, ?_, hprocessed, ?_, ?_, ?_⟩
  · rw [reported, hquality]
    rfl
  · exact hasked.trans (hcalls.trans (ite_self _).symm)
  · rw [advance, effects_cons, hdone, heffects]
    exact htold
  · rw [advance, results_cons, hresults]
    rfl
  · refine hcounted.trans ?_
    rw [hstats, frame_stats_zero, heffects]
    rfl

/-- The run behind the calls before the loop. -/
theorem demo_setup (args : EdgeArgs) (fs : FileSystem) (llama : Option LlamaLibrary)
    (now : ℕ → UInt64) :
    Demo args fs llama now 0
      (EdgeAgent.run args.probe_interval.toNat (args.readable_setup fs llama now)).1
      (EdgeAgent.run args.probe_interval.toNat (args.readable_setup fs llama now)).2 := by
  by_cases hoffline : args.mode = "offline"
  · have heffects : args.forced_effects = [.mode_change 0 .Online .Offline] := if_pos hoffline
    refine Demo.of_forced (if_pos hoffline) heffects ?_ (by decide)
    intro agent
    rw [determine_mode_eq_offline]
    dsimp only [NetworkQuality.is_offline]
    decide +kernel
  · by_cases hdegraded : args.mode = "degraded"
    · have heffects : args.forced_effects = [.mode_change 0 .Online .Degraded] :=
        (if_neg hoffline).trans (if_pos hdegraded)
      refine Demo.of_forced ((if_neg hoffline).trans (if_pos hdegraded)) heffects ?_ (by decide)
      intro agent
      rw [determine_mode, if_neg, if_pos]
      · dsimp only [NetworkQuality.is_degraded]
        decide +kernel
      · dsimp only [NetworkQuality.is_offline]
        decide +kernel
    · -- no report is made
      have hquality : args.forced_quality (now 0) = none :=
        (if_neg hoffline).trans (if_neg hdegraded)
      have heffects : args.forced_effects = [] := (if_neg hoffline).trans (if_neg hdegraded)
      have hanswering := args.setup_answering fs llama now
      have hcalls : (args.installed fs llama).calls = [] := installed_calls fs llama
      obtain ⟨⟨-, -, hstats⟩, ⟨hreport, hbackend, hasked, hprocessed⟩, hdone, hresults⟩ :=
        started args.probe_interval.toNat (args.loaded_backend fs llama)
      rw [readable_setup, setup_calls, hquality, Option.toList_none, List.map_nil, List.append_nil]
        at hanswering ⊢
      refine ⟨hanswering, ?_, hbackend, ?_, hprocessed, ?_, hresults, ?_⟩
      · rw [reported, hquality]
        exact hreport
      · exact hasked.trans (hcalls.trans (ite_self _).symm)
      · rw [hdone, heffects]
        rfl
      · rw [hstats, frame_stats_zero, heffects]
        rfl

/-- Behind any number of rounds. -/
theorem demo_frames (args : EdgeArgs) (fs : FileSystem) (llama : Option LlamaLibrary)
    (now : ℕ → UInt64) (n : ℕ) :
    let calls := args.readable_setup fs llama now ++ readable_frames now n
    Demo args fs llama now n (EdgeAgent.run args.probe_interval.toNat calls).1
      (EdgeAgent.run args.probe_interval.toNat calls).2 := by
  induction n with
  | zero =>
      rw [readable_frames, List.range_zero, List.map_nil, List.append_nil]
      exact demo_setup args fs llama now
  | succ n ih =>
      intro calls
      have hcalls : calls = args.readable_setup fs llama now ++ readable_frames now n ++
          [.process_frame (demo_frame n) (now (n + 1))] := by
        rw [List.append_assoc]
        exact congrArg _ (by rw [readable_frames, List.range_succ, List.map_append]; rfl)
      rw [hcalls, run_concat]
      exact ih.frame

end Demo

/-! ## The clock

The readings that the program makes are the ones for the report and for the frames, and each
may panic by itself. `main_eq` collects them in `Readable`: the program is the run of its
calls at those readings, or it panics. Up to here the proofs above know nothing of panics. -/

section Clock

variable {clock : ℕ → SystemTime}

theorem forced_report_eq (args : EdgeArgs) (time : SystemTime) :
    args.forced_report time =
      if args.mode = "offline" ∨ args.mode = "degraded" → time.SinceEpoch then
        some (args.forced_quality time.as_nanos)
      else none := by
  unfold forced_report
  by_cases hforced : args.mode = "offline" ∨ args.mode = "degraded"
  · rw [if_pos hforced, SystemTime.now_ns]
    by_cases hsince : time.SinceEpoch
    · rw [if_pos hsince, if_pos fun _ => hsince]
      rfl
    · rw [if_neg hsince, if_neg fun h => hsince (h hforced)]
      rfl
  · obtain ⟨hoffline, hdegraded⟩ := not_or.mp hforced
    rw [if_neg hforced, if_pos fun h => absurd h hforced, forced_quality, if_neg hoffline,
      if_neg hdegraded]

/-- The frames up to the first reading that panics. -/
theorem frame_calls_eq (clock : ℕ → SystemTime) (n : ℕ) :
    frame_calls clock n =
      if ∀ i < n, (clock (i + 1)).SinceEpoch then some (readable_frames (readings clock) n)
      else none := by
  induction n with
  | zero => rw [if_pos fun i hi => absurd hi (Nat.not_lt_zero i)]; rfl
  | succ n ih =>
      rw [frame_calls] at ih ⊢
      rw [List.range_succ, List.mapM_append, ih, List.mapM_cons, List.mapM_nil, SystemTime.now_ns]
      -- `mapM` stops at the first reading that fails, so the earlier ones are looked at
      -- first
      by_cases hearlier : ∀ i < n, (clock (i + 1)).SinceEpoch
      · by_cases hlast : (clock (n + 1)).SinceEpoch
        · have hall : ∀ i < n + 1, (clock (i + 1)).SinceEpoch := by
            intro i hi
            rcases Nat.lt_succ_iff_lt_or_eq.mp hi with hi | rfl
            · exact hearlier i hi
            · exact hlast
          rw [if_pos hearlier, if_pos hlast, if_pos hall, readable_frames, readable_frames,
            List.range_succ, List.map_append]
          rfl
        · have hnot : ¬ ∀ i < n + 1, (clock (i + 1)).SinceEpoch :=
            fun h => hlast (h n (Nat.lt_succ_self n))
          rw [if_pos hearlier, if_neg hlast, if_neg hnot]
          rfl
      · have hnot : ¬ ∀ i < n + 1, (clock (i + 1)).SinceEpoch :=
          fun h => hearlier fun i hi => h i (Nat.lt_succ_of_lt hi)
        rw [if_neg hearlier, if_neg hnot]
        rfl

/-- A program that does not panic makes its calls with the readings of the clock. -/
theorem main_eq (args : EdgeArgs) (fs : FileSystem) (llama : Option LlamaLibrary)
    (clock : ℕ → SystemTime) :
    args.main fs llama clock =
      if args.Readable clock then
        some (EdgeAgent.run args.probe_interval.toNat
          (args.readable_setup fs llama (readings clock) ++ readable_frames (readings clock) 5))
      else none := by
  rw [main, forced_report_eq, frame_calls_eq]
  by_cases hreport : args.mode = "offline" ∨ args.mode = "degraded" → (clock 0).SinceEpoch
  · by_cases hframes : ∀ i < 5, (clock (i + 1)).SinceEpoch
    · rw [if_pos hreport, if_pos hframes, if_pos ⟨hreport, hframes⟩]
      rfl
    · have hnot : ¬ args.Readable clock := fun h => hframes h.2
      rw [if_pos hreport, if_neg hframes, if_neg hnot]
      rfl
  · have hnot : ¬ args.Readable clock := fun h => hreport h.1
    rw [if_neg hreport, if_neg hnot]
    rfl

end Clock

/-- **What the program does.** For all arguments, files, libraries and clocks: it panics just
when it reads a clock before 1970, for the report if it makes one or for a frame. Otherwise it
asks for layers to be offloaded only where there is a card that a model can use. The agent changes
its mode if it is told to, and processes five frames. Offline it asks the backend for each of
them, with what that was asked before, and nothing goes to the cloud; otherwise all five go there,
numbered from one. It answers and counts them so. -/
theorem main_does (fs : FileSystem) (llama : Option LlamaLibrary) (clock : ℕ → SystemTime) :
    (args.main fs llama clock = none ↔ ¬ args.Readable clock) ∧
      ∀ r ∈ args.main fs llama clock,
        (args.offloaded_layers fs ≠ 0 →
            ∃ file_name ∈ fs.entries "/sys/class/drm", fs.OffloadCard file_name) ∧
          effects r.2 = args.forced_effects ++ (List.range 5).map args.frame_effect ∧
          results r.2 = (List.range 5).map (args.frame_result fs llama (readings clock)) ∧
          r.1.stats = args.frame_stats 5 := by
  have hmain := main_eq args fs llama clock
  by_cases hreadable : args.Readable clock
  · rw [if_pos hreadable] at hmain
    rw [hmain]
    refine ⟨iff_of_false (Option.some_ne_none _) (not_not.mpr hreadable), ?_⟩
    intro r hr
    obtain rfl := Option.some.inj hr
    have h := demo_frames args fs llama (readings clock) 5
    refine ⟨?_, h.effects, h.results, h.stats⟩
    intro hlayers
    -- without such a card `offloaded_layers` is zero, whatever was asked for
    rw [← FileSystem.offload_available_iff, ← List.any_eq_true]
    by_contra hnone
    exact hlayers (if_neg hnone)
  · rw [if_neg hreadable] at hmain
    rw [hmain]
    refine ⟨iff_of_true rfl hreadable, ?_⟩
    intro r hr
    cases hr

end EdgeArgs

end SovereignEdgeTee
