/-
`probe_network_quality` of `crates/edge-agent/src/lib.rs`, and an agent that is told nothing
but what it probed.

The probe draws three numbers between zero and one and scales them. The products and the sum
are rounded, and rounding crosses no integer, so the latency is at most 65 ms, the loss at
most 2 % and the jitter at most 10 ms: far inside the thresholds. So no report of a probe asks
for another mode than `Online`, and an agent that gets only such reports never leaves it.
-/
import SovereignEdgeTee.Binary64Value
import SovereignEdgeTee.EdgeAgent

set_option autoImplicit false

namespace SovereignEdgeTee

open Binary64 Mealy

/-! ## One probe

Lines 135 to 154 of the source: three draws, scaled by 20, 2 and 10, and 45 added to the
first. Each of these operations rounds. `mul_value_le` and `add_value_le` bound the rounded
results by the whole numbers that bound the exact ones, and those lie below every threshold. -/

/-- What `rand::random::<f64>` returns: a number from zero up to one. -/
def UnitDraw (x : F64) : Prop := (F64.ofInt 0).ble x = true ∧ x.blt (F64.ofInt 1) = true

theorem UnitDraw.value {x : F64} (h : UnitDraw x) :
    ∃ d, x = .finite d ∧ 0 ≤ d.value ∧ d.value ≤ 1 := by
  obtain ⟨zero, hzero, hzero'⟩ := ofInt_value (n := 0) (by decide)
  obtain ⟨one, hone, hone'⟩ := ofInt_value (n := 1) (by decide)
  obtain ⟨hlow, hhigh⟩ := h
  rw [hzero] at hlow
  rw [hone] at hhigh
  -- an infinity is on the wrong side of zero or of one
  cases x with
  | nan => cases hhigh
  | inf negative => cases negative <;> simp [F64.ble, F64.blt] at hlow hhigh
  | finite d =>
      rw [ble_finite, hzero', Int.cast_zero] at hlow
      rw [blt_finite, hone', Int.cast_one] at hhigh
      exact ⟨d, rfl, hlow, hhigh.le⟩

/-- A draw scaled by a whole number stays below it. -/
theorem UnitDraw.mul {x : F64} (h : UnitDraw x) {c : ℕ} (hc : c < 2 ^ 53) :
    ∃ d, x.mul (F64.ofInt c) = .finite d ∧ 0 ≤ d.value ∧ d.value ≤ c := by
  obtain ⟨d, rfl, hlow, hhigh⟩ := h.value
  obtain ⟨scale, hscale, hscale'⟩ := ofInt_value (n := c) (by omega)
  rw [Int.cast_natCast] at hscale'
  have hnonneg : (0 : ℚ) ≤ c := Nat.cast_nonneg c
  rw [hscale]
  refine mul_value_le hlow (by rw [hscale']; exact hnonneg) hc ?_
  rw [hscale']
  exact mul_le_of_le_one_left hnonneg hhigh

namespace EdgeAgent

/-- The three draws of a probe. -/
def UnitDraws (draws : F64 × F64 × F64) : Prop :=
  UnitDraw draws.1 ∧ UnitDraw draws.2.1 ∧ UnitDraw draws.2.2

theorem probe_latency {x : F64} (h : UnitDraw x) :
    ∃ d, (F64.ofInt 45).add (x.mul (F64.ofInt 20)) = .finite d ∧ d.value ≤ (65 : ℕ) := by
  obtain ⟨scaled, hscaled, hlow, hhigh⟩ := h.mul (c := 20) (by decide)
  obtain ⟨base, hbase, hbase'⟩ := ofInt_value (n := 45) (by decide)
  have hsum : base.value + scaled.value ≤ (65 : ℕ) := by
    rw [hbase']
    push_cast at hhigh ⊢
    linarith only [hhigh]
  obtain ⟨d, hd, -, hd'⟩ :=
    add_value_le (by rw [hbase']; norm_num) hlow (c := 65) (by decide) hsum
  refine ⟨d, ?_, hd'⟩
  rw [← hd, ← hbase, ← hscaled]
  rfl

/-- A reading of at most `c` is not above a threshold from `c` on. -/
theorem not_above {x : F64} {d : Binary64.Finite} {c n : ℕ} (hx : x = .finite d)
    (hd : d.value ≤ (c : ℕ)) (hcn : c ≤ n) (hn : n < 2 ^ 53) : x.bgt (F64.ofInt n) = false := by
  rw [hx]
  exact F64.not_bgt_of_value_le hn (hd.trans (Nat.cast_le.mpr hcn))

/-- **A probe reports a good link.** -/
theorem probe_good (self : EdgeAgent) {draws : F64 × F64 × F64} (h : UnitDraws draws)
    (now : UInt64) :
    (self.probe_network_quality draws now).2.is_offline = false ∧
      (self.probe_network_quality draws now).2.is_degraded = false := by
  obtain ⟨hlatency, hloss, hjitter⟩ := h
  obtain ⟨latency, hlatency, hlatency'⟩ := probe_latency hlatency
  obtain ⟨loss, hloss, -, hloss'⟩ := hloss.mul (c := 2) (by decide)
  obtain ⟨jitter, hjitter, -, hjitter'⟩ := hjitter.mul (c := 10) (by decide)
  -- every test is the comparison of a bounded reading with a larger threshold
  constructor
  · rw [NetworkQuality.is_offline, Bool.or_eq_false_iff]
    exact ⟨not_above hlatency hlatency' (by decide) (by decide),
      not_above hloss hloss' (by decide) (by decide)⟩
  · rw [NetworkQuality.is_degraded, Bool.or_eq_false_iff, Bool.or_eq_false_iff]
    exact ⟨⟨not_above hlatency hlatency' (by decide) (by decide),
      not_above hloss hloss' (by decide) (by decide)⟩,
      not_above hjitter hjitter' (by decide) (by decide)⟩

/-! ## Runs on probes alone

`ProbedInv` keeps, besides the mode, that every quality a probe has returned so far is good; a
report may come any number of calls after its probe. With that a report changes nothing, and a
frame meets the `Online` arm. -/

/-- A probe draws numbers from zero up to one, and a report is one that a probe returned
before. -/
def Probed (older : List LogEntry) (e : LogEntry) : Prop :=
  match e.input with
  | .probe_network_quality draws _ => UnitDraws draws
  | .update_network_quality quality => ∃ probe ∈ older, probe.output.quality = some quality
  | _ => True

/-- What a run on probes keeps: the agent is `Online` and no transition was counted, every
report to come is a good one, and what was done outside the agent was offloading. -/
structure ProbedInv (agent : EdgeAgent) (log : List LogEntry) : Prop where
  online : agent.mode = .Online
  transitions : agent.stats.mode_transitions = 0
  good : ∀ e ∈ log, ∀ quality, e.output.quality = some quality →
    quality.is_offline = false ∧ quality.is_degraded = false
  offloads : ∀ e ∈ log, ∀ effect ∈ e.output.effects, ∃ frame, effect = .cloud_offload frame

variable {self self' : EdgeAgent} {log : List LogEntry} {e : LogEntry}

theorem ProbedInv.step (h : ProbedInv self log) (hmode : self'.mode = self.mode)
    (htransitions : self'.stats.mode_transitions = self.stats.mode_transitions)
    (hgood : ∀ quality, e.output.quality = some quality →
      quality.is_offline = false ∧ quality.is_degraded = false)
    (hoffloads : ∀ effect ∈ e.output.effects, ∃ frame, effect = .cloud_offload frame) :
    ProbedInv self' (e :: log) := by
  refine ⟨hmode.trans h.online, htransitions.trans h.transitions, ?_, ?_⟩
  · exact List.forall_mem_cons.mpr ⟨hgood, h.good⟩
  · exact List.forall_mem_cons.mpr ⟨hoffloads, h.offloads⟩

/-- A step that probes nothing and does nothing outside but offload, if anything. -/
theorem ProbedInv.quiet (h : ProbedInv self log) (hmode : self'.mode = self.mode)
    (htransitions : self'.stats.mode_transitions = self.stats.mode_transitions)
    (hquality : e.output.quality = none)
    (heffects : e.output.effects = [] ∨ ∃ frame, e.output.effects = [.cloud_offload frame]) :
    ProbedInv self' (e :: log) := by
  refine h.step hmode htransitions ?_ ?_
  · intro quality hsome
    rw [hquality] at hsome
    cases hsome
  · intro effect heffect
    rcases heffects with hnil | ⟨frame, hone⟩
    · rw [hnil] at heffect
      exact absurd heffect List.not_mem_nil
    · rw [hone] at heffect
      exact ⟨frame, List.mem_singleton.mp heffect⟩

/-- A good report leaves an `Online` agent as it is, but for the report. -/
theorem update_good (honline : self.mode = .Online) {quality : NetworkQuality}
    (hgood : quality.is_offline = false ∧ quality.is_degraded = false) :
    self.update_network_quality quality = ({ self with network_quality := quality }, []) := by
  obtain ⟨hoffline, hdegraded⟩ := hgood
  have hmode : determine_mode { self with network_quality := quality } = self.mode := by
    rw [determine_mode, hoffline, hdegraded, honline]
    rfl
  rw [update_network_quality, if_neg (not_not.mpr hmode)]

theorem probedInv_step (self : EdgeAgent) (log : List LogEntry) (call : AgentCall)
    (hprobed : Guarded Probed (entry EdgeAgent.step self call :: log)) (h : ProbedInv self log) :
    ProbedInv (self.step call).1 (entry EdgeAgent.step self call :: log) := by
  cases call with
  | update_network_quality quality =>
      obtain ⟨⟨probe, hprobe, hquality⟩, -⟩ := hprobed
      -- the report was returned by an earlier probe, and the invariant has kept that it is
      -- good
      have hupdate := update_good h.online (h.good probe hprobe quality hquality)
      have hstep : self.step (.update_network_quality quality)
          = ({ self with network_quality := quality }, ⟨none, none, []⟩) := by
        rw [EdgeAgent.step, hupdate]
      rw [entry, hstep]
      exact h.quiet rfl rfl rfl (Or.inl rfl)
  | process_frame frame now =>
      -- the mode is `Online`, so the frame is offloaded
      have hprocess : self.process_frame frame now = ((self.buffer_frame frame).count_cloud,
          process_cloud_offload (self.numbered frame) now) := by
        rw [process_frame, buffer_frame_mode, h.online]
      have hstep : self.step (.process_frame frame now)
          = ((self.buffer_frame frame).count_cloud,
            ⟨some (process_cloud_offload (self.numbered frame) now).1, none,
              [.cloud_offload (self.numbered frame)]⟩) := by
        rw [EdgeAgent.step, hprocess]
        rfl
      rw [entry, hstep]
      exact h.quiet rfl rfl rfl (Or.inr ⟨_, rfl⟩)
  | probe_network_quality draws now =>
      obtain ⟨hdraws, -⟩ := hprobed
      refine h.step rfl rfl ?_ (fun effect heffect => absurd heffect List.not_mem_nil)
      intro quality hquality
      rw [← Option.some.inj hquality]
      exact self.probe_good hdraws now
  | set_local_backend backend =>
      exact h.quiet rfl rfl rfl (Or.inl rfl)
  | set_mode_change_callback callback =>
      exact h.quiet rfl rfl rfl (Or.inl rfl)

/-- **Probing alone never leaves `Online`.** In every run whose reports are what its own
probes returned, the agent is `Online`, has made no transition and called no callback, and
has done nothing outside but offload the frames it was given: no local inference was run. -/
theorem probed_run_online (probe_interval_secs : ℕ) (calls : List AgentCall)
    (hprobed : Guarded Probed (run probe_interval_secs calls).2) :
    (run probe_interval_secs calls).1.mode = .Online ∧
      (run probe_interval_secs calls).1.stats.mode_transitions = 0 ∧
      ∀ e ∈ (run probe_interval_secs calls).2, ∀ effect ∈ e.output.effects,
        ∃ frame, effect = .cloud_offload frame := by
  have hnew : ProbedInv (new probe_interval_secs) [] :=
    ⟨rfl, rfl, fun e he => absurd he List.not_mem_nil, fun e he => absurd he List.not_mem_nil⟩
  have h : ProbedInv (run probe_interval_secs calls).1 (run probe_interval_secs calls).2 :=
    exec_induction_of EdgeAgent.step Guarded.tail hnew probedInv_step calls hprobed
  exact ⟨h.online, h.transitions, h.offloads⟩

/-- A run that probes the link, reports what it found, and processes a frame. -/
theorem probed_run_online_once :
    let draw : F64 := F64.mul (F64.ofInt 1) F64.epsilon
    let quality := ((new 5).probe_network_quality (draw, draw, draw) 7).2
    (run 5 [.probe_network_quality (draw, draw, draw) 7, .update_network_quality quality,
      .process_frame ⟨0, "192.168.1.1", none, 0, [1, 2]⟩ 8]).1.mode = .Online := by
  intro draw quality
  have hdraw : UnitDraw draw := ⟨by decide +kernel, by decide +kernel⟩
  refine (probed_run_online 5 _ ?_).1
  exact ⟨trivial, ⟨_, List.mem_singleton_self _, rfl⟩, ⟨hdraw, hdraw, hdraw⟩, trivial⟩

end EdgeAgent

end SovereignEdgeTee
