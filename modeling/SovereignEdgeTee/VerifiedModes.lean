/-
`verification/SovereignEdge/ModeMachine.lean`, the repository's own model of the mode
decision, and the agent as a refinement of it.

The model measures the link in microseconds and millionths, the crate in doubles of
milliseconds and percent. A double is taken to the model rounded up (`F64.units`): rounding
down would take `200.0005` ms to the threshold itself, which the crate is already above. So
the two decide alike on every report, infinities and NaNs included, and not only on those the
model's authors had in mind.
-/
import SovereignEdgeTee.Binary64Value
import SovereignEdgeTee.EdgeAgent

set_option autoImplicit false

/-! ## The model

The model has no doubles. It counts a latency in microseconds and a percentage in millionths,
so that every threshold of the crate is a natural number, and it has three modes where the
crate has four. -/

namespace SovereignEdge.ModeMachine

structure NetworkQuality where
  latencyUs : ℕ
  lossPpm : ℕ
  jitterUs : ℕ

def isDegraded (q : NetworkQuality) : Bool :=
  decide (q.latencyUs > 200000) || decide (q.lossPpm > 50000) || decide (q.jitterUs > 50000)

def isOffline (q : NetworkQuality) : Bool :=
  decide (q.latencyUs > 5000000) || decide (q.lossPpm > 500000)

inductive AgentMode where
  | online
  | degraded
  | offline
deriving DecidableEq

def determineMode (q : NetworkQuality) : AgentMode :=
  if isOffline q then .offline
  else if isDegraded q then .degraded
  else .online

def severity : AgentMode → ℕ
  | .online => 0
  | .degraded => 1
  | .offline => 2

/-- The second link is no better than the first. -/
def Worse (q q' : NetworkQuality) : Prop :=
  q.latencyUs ≤ q'.latencyUs ∧ q.lossPpm ≤ q'.lossPpm ∧ q.jitterUs ≤ q'.jitterUs

variable {q q' : NetworkQuality}

theorem isDegraded_mono (h : Worse q q') : isDegraded q = true → isDegraded q' = true := by
  obtain ⟨hlatency, hloss, hjitter⟩ := h
  simp only [isDegraded, Bool.or_eq_true, decide_eq_true_eq]
  omega

theorem isOffline_mono (h : Worse q q') : isOffline q = true → isOffline q' = true := by
  obtain ⟨hlatency, hloss, -⟩ := h
  simp only [isOffline, Bool.or_eq_true, decide_eq_true_eq]
  omega

theorem severity_le_two (mode : AgentMode) : severity mode ≤ 2 := by
  cases mode <;> decide

/-- A link that is no better asks for a mode that is no less severe. -/
theorem determineMode_monotone (h : Worse q q') :
    severity (determineMode q) ≤ severity (determineMode q') := by
  unfold determineMode
  by_cases hoffline' : isOffline q' = true
  · rw [if_pos hoffline']
    exact severity_le_two _
  · -- neither link is offline, and a degraded one stays degraded
    have hoffline : ¬ isOffline q = true := fun ho => hoffline' (isOffline_mono h ho)
    rw [if_neg hoffline, if_neg hoffline']
    by_cases hdegraded : isDegraded q = true
    · rw [if_pos hdegraded, if_pos (isDegraded_mono h hdegraded)]
    · rw [if_neg hdegraded]
      exact Nat.zero_le _

end SovereignEdge.ModeMachine

/-! ## The refinement

`measured` takes a report of the crate to one of the model. The thresholds of the crate are
whole numbers of the model's units, so a double is above one of them just when its units are
(`bgt_threshold`), and the two sides test the same things in the same order. -/

namespace SovereignEdgeTee

open SovereignEdge (ModeMachine.determineMode ModeMachine.severity)

namespace NetworkQuality

/-- A report as the model sees it: milliseconds as microseconds, percent as millionths. -/
def measured (quality : NetworkQuality) : SovereignEdge.ModeMachine.NetworkQuality :=
  ⟨quality.latency_ms.units 1000, quality.packet_loss_pct.units 10000,
    quality.jitter_ms.units 1000⟩

/-- No reading of the second report is below that of the first. -/
def NoBetter (quality worse : NetworkQuality) : Prop :=
  quality.latency_ms.ble worse.latency_ms = true ∧
    quality.packet_loss_pct.ble worse.packet_loss_pct = true ∧
    quality.jitter_ms.ble worse.jitter_ms = true

variable (quality : NetworkQuality)

/-- A threshold of the crate is a threshold of the model. -/
theorem bgt_threshold {c n m : ℕ} (hc : 0 < c) (hn : n < 2 ^ 53) (hm : c * n = m) (x : F64) :
    x.bgt (F64.ofInt n) = decide (x.units c > m) := by
  rw [Bool.eq_iff_iff, F64.bgt_ofInt_iff hc hn, hm, decide_eq_true_iff, gt_iff_lt]

theorem is_degraded_refines :
    quality.is_degraded = SovereignEdge.ModeMachine.isDegraded quality.measured := by
  have hlatency := bgt_threshold (c := 1000) (n := 200) (m := 200000) (by decide) (by decide)
    rfl quality.latency_ms
  have hloss := bgt_threshold (c := 10000) (n := 5) (m := 50000) (by decide) (by decide)
    rfl quality.packet_loss_pct
  have hjitter := bgt_threshold (c := 1000) (n := 50) (m := 50000) (by decide) (by decide)
    rfl quality.jitter_ms
  rw [is_degraded, SovereignEdge.ModeMachine.isDegraded]
  exact congrArg₂ _ (congrArg₂ _ hlatency hloss) hjitter

theorem is_offline_refines :
    quality.is_offline = SovereignEdge.ModeMachine.isOffline quality.measured := by
  have hlatency := bgt_threshold (c := 1000) (n := 5000) (m := 5000000) (by decide) (by decide)
    rfl quality.latency_ms
  have hloss := bgt_threshold (c := 10000) (n := 50) (m := 500000) (by decide) (by decide)
    rfl quality.packet_loss_pct
  rw [is_offline, SovereignEdge.ModeMachine.isOffline]
  exact congrArg₂ _ hlatency hloss

theorem NoBetter.measured {quality worse : NetworkQuality} (h : quality.NoBetter worse) :
    SovereignEdge.ModeMachine.Worse quality.measured worse.measured := by
  obtain ⟨hlatency, hloss, hjitter⟩ := h
  exact ⟨F64.units_mono 1000 hlatency, F64.units_mono 10000 hloss, F64.units_mono 1000 hjitter⟩

end NetworkQuality

/-- The mode of the model. It has none for `Transitioning`. -/
def AgentMode.modelled : AgentMode → Option SovereignEdge.ModeMachine.AgentMode
  | .Online => some .online
  | .Degraded => some .degraded
  | .Offline => some .offline
  | .Transitioning => none

namespace EdgeAgent

theorem determine_mode_refines (self : EdgeAgent) :
    self.determine_mode.modelled =
      some (ModeMachine.determineMode self.network_quality.measured) := by
  rw [determine_mode, ModeMachine.determineMode, NetworkQuality.is_offline_refines,
    NetworkQuality.is_degraded_refines]
  split
  · rfl
  · split
    · rfl
    · rfl

/-- An agent in the mode its quality asks for is in the mode of the model. -/
theorem Coherent.mode_refines {self : EdgeAgent} (h : self.Coherent) :
    self.mode.modelled = some (ModeMachine.determineMode self.network_quality.measured) := by
  rw [h]
  exact self.determine_mode_refines

/-- **The agent refines its mode machine.** In every state of every run the mode is the one
the model has for the last report, whatever doubles it holds. A further report that is no
better than that one, reading by reading, leaves the agent in a mode that is no less severe. -/
theorem mode_machine_refines (probe_interval_secs : ℕ) (calls : List AgentCall) :
    let r := run probe_interval_secs calls
    r.1.mode.modelled = some (ModeMachine.determineMode (last_report r.2).measured) ∧
      ∀ worse, (last_report r.2).NoBetter worse →
        ∃ mode mode', r.1.mode.modelled = some mode ∧
          (r.1.update_network_quality worse).1.mode.modelled = some mode' ∧
          ModeMachine.severity mode ≤ ModeMachine.severity mode' := by
  intro r
  obtain ⟨hcoherent, hquality⟩ := reachable_coherent probe_interval_secs calls
  have hmode := hcoherent.mode_refines
  rw [hquality] at hmode
  refine ⟨hmode, ?_⟩
  intro worse hworse
  obtain ⟨hquality', hcoherent', -⟩ := update_network_quality_spec r.1 worse
  have hmode' := hcoherent'.mode_refines
  rw [hquality'] at hmode'
  exact ⟨_, _, hmode, hmode', SovereignEdge.ModeMachine.determineMode_monotone hworse.measured⟩

end EdgeAgent

end SovereignEdgeTee
