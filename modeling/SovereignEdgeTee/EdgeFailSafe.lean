/-
Whether the mode is safe for every report. The thresholds are tested with `>`, and a report
that meets no test is taken for a good link. A NaN meets no test: where it is the metric
that decides, the agent takes the link for good, and may clear its buffer.
`update_fail_safe_iff` says exactly for which reports that does not happen.
-/
import SovereignEdgeTee.EdgeAgent

set_option autoImplicit false

namespace SovereignEdgeTee

namespace NetworkQuality

/-- The link is good enough for `Online`. -/
structure MeetsOnline (quality : NetworkQuality) : Prop where
  latency : quality.latency_ms.ble (F64.ofInt 200) = true
  loss : quality.packet_loss_pct.ble (F64.ofInt 5) = true
  jitter : quality.jitter_ms.ble (F64.ofInt 50) = true

/-- The link is good enough for `Degraded`. -/
structure MeetsDegraded (quality : NetworkQuality) : Prop where
  latency : quality.latency_ms.ble (F64.ofInt 5000) = true
  loss : quality.packet_loss_pct.ble (F64.ofInt 50) = true

/-- One of the metrics of a link is not a number. -/
def Unusable (quality : NetworkQuality) : Prop :=
  quality.latency_ms = .nan ∨ quality.packet_loss_pct = .nan ∨ quality.jitter_ms = .nan

/-- The metrics that decide the mode can be compared: the latency and the loss of a report
that is not offline, and its jitter, unless the other two are degraded. -/
def Decisive (quality : NetworkQuality) : Prop :=
  quality.is_offline = true ∨
    (quality.latency_ms ≠ .nan ∧ quality.packet_loss_pct ≠ .nan ∧
      (quality.jitter_ms ≠ .nan ∨ quality.latency_ms.bgt (F64.ofInt 200) = true ∨
        quality.packet_loss_pct.bgt (F64.ofInt 5) = true))

theorem MeetsOnline.not_unusable {quality : NetworkQuality} (h : quality.MeetsOnline) :
    ¬ quality.Unusable := by
  rintro (hnan | hnan | hnan)
  · exact F64.ne_nan_of_ble h.latency hnan
  · exact F64.ne_nan_of_ble h.loss hnan
  · exact F64.ne_nan_of_ble h.jitter hnan

variable {quality : NetworkQuality}

/-! ## What the thresholds say

The source asks whether a reading is above a threshold, and the safe question is whether it is
at or below. On two numbers one is the negation of the other (`F64.ble_iff_not_bgt`); on a NaN
both are false. So each lemma here has to ask for the readings that are no NaN, and for those
only. -/

/-- A report that is not offline is good enough for `Degraded`, if its latency and its loss
can be compared. -/
theorem meetsDegraded_iff (hoffline : quality.is_offline = false) :
    quality.MeetsDegraded ↔ quality.latency_ms ≠ .nan ∧ quality.packet_loss_pct ≠ .nan := by
  rw [is_offline, Bool.or_eq_false_iff] at hoffline
  constructor
  · rintro ⟨hlatency, hloss⟩
    exact ⟨F64.ne_nan_of_ble hlatency, F64.ne_nan_of_ble hloss⟩
  · rintro ⟨hlatency, hloss⟩
    exact ⟨(F64.ble_iff_not_bgt hlatency (by decide)).mpr hoffline.1,
      (F64.ble_iff_not_bgt hloss (by decide)).mpr hoffline.2⟩

/-- A report that is not degraded is good enough for `Online`, if its metrics can be
compared. -/
theorem meetsOnline_iff (hdegraded : quality.is_degraded = false) :
    quality.MeetsOnline ↔ ¬ quality.Unusable := by
  refine ⟨MeetsOnline.not_unusable, ?_⟩
  intro husable
  rw [is_degraded, Bool.or_eq_false_iff, Bool.or_eq_false_iff] at hdegraded
  obtain ⟨⟨hlatency, hloss⟩, hjitter⟩ := hdegraded
  rw [Unusable, not_or, not_or] at husable
  obtain ⟨hl, hp, hj⟩ := husable
  -- each test that failed is the bound asked for, now that its reading is a number
  exact ⟨(F64.ble_iff_not_bgt hl (by decide)).mpr hlatency,
    (F64.ble_iff_not_bgt hp (by decide)).mpr hloss,
    (F64.ble_iff_not_bgt hj (by decide)).mpr hjitter⟩

/-- A degraded report is decided by its latency or its loss, or by a jitter that can be
compared. -/
theorem decided_of_is_degraded (hdegraded : quality.is_degraded = true) :
    quality.jitter_ms ≠ .nan ∨ quality.latency_ms.bgt (F64.ofInt 200) = true ∨
      quality.packet_loss_pct.bgt (F64.ofInt 5) = true := by
  rw [is_degraded, Bool.or_eq_true, Bool.or_eq_true] at hdegraded
  rcases hdegraded with hother | hjitter
  · exact Or.inr hother
  · refine Or.inl ?_
    intro hnan
    rw [hnan, F64.nan_bgt] at hjitter
    cases hjitter

/-- What `Decisive` asks of a report that is not offline, by whether it is degraded. -/
theorem decisive_iff (hoffline : quality.is_offline = false) :
    quality.Decisive ↔
      if quality.is_degraded then quality.MeetsDegraded else quality.MeetsOnline := by
  have hnot : ¬ quality.is_offline = true := by
    rw [hoffline]
    exact Bool.false_ne_true
  rw [Decisive, or_iff_right hnot]
  by_cases hdegraded : quality.is_degraded = true
  · rw [if_pos hdegraded, meetsDegraded_iff hoffline]
    -- which of the three tests made the report degraded does not matter: the loss and the
    -- latency have to be numbers anyway, and a jitter that decides is one
    constructor
    · rintro ⟨hlatency, hloss, -⟩
      exact ⟨hlatency, hloss⟩
    · rintro ⟨hlatency, hloss⟩
      exact ⟨hlatency, hloss, decided_of_is_degraded hdegraded⟩
  · rw [if_neg hdegraded]
    rw [Bool.not_eq_true] at hdegraded
    rw [meetsOnline_iff hdegraded, Unusable, not_or, not_or]
    -- neither of the first two tests hits, so the jitter decides
    rw [is_degraded, Bool.or_eq_false_iff, Bool.or_eq_false_iff] at hdegraded
    obtain ⟨⟨hlatency, hloss⟩, -⟩ := hdegraded
    rw [hlatency, hloss, or_self, or_iff_left Bool.false_ne_true]

end NetworkQuality

namespace EdgeAgent

open NetworkQuality

/-- What a report makes of an agent is safe: it is `Online` or `Degraded` only on a link good
enough for that, and a report that is not usable neither takes it `Online` nor clears its
buffer. -/
structure FailSafe (before : EdgeAgent) (quality : NetworkQuality) (after : EdgeAgent) :
    Prop where
  online : after.mode = .Online → quality.MeetsOnline
  degraded : after.mode = .Degraded → quality.MeetsDegraded
  unusable : quality.Unusable →
    after.mode ≠ .Online ∧ after.context_buffer = before.context_buffer

/-- The mode after a report, by what the report says. -/
theorem update_mode_eq (self : EdgeAgent) (quality : NetworkQuality) :
    (self.update_network_quality quality).1.mode =
      if quality.is_offline then .Offline
      else if quality.is_degraded then .Degraded
      else .Online := by
  obtain ⟨hquality, hcoherent, -⟩ := self.update_network_quality_spec quality
  rw [hcoherent, determine_mode, hquality]

/-- The last part follows from the first: only `Online` clears the buffer. -/
theorem failSafe_iff (self : EdgeAgent) (quality : NetworkQuality) :
    FailSafe self quality (self.update_network_quality quality).1 ↔
      ((self.update_network_quality quality).1.mode = .Online → quality.MeetsOnline) ∧
      ((self.update_network_quality quality).1.mode = .Degraded → quality.MeetsDegraded) := by
  constructor
  · intro h
    exact ⟨h.online, h.degraded⟩
  · rintro ⟨honline, hdegraded⟩
    refine ⟨honline, hdegraded, ?_⟩
    intro hunusable
    -- a link with a NaN is not good enough for `Online`, and in no other mode is the buffer
    -- cleared
    have hmode : (self.update_network_quality quality).1.mode ≠ .Online :=
      fun h => (honline h).not_unusable hunusable
    obtain ⟨-, -, hbuffer⟩ := self.update_network_quality_spec quality
    rw [if_neg fun h => hmode h.1] at hbuffer
    exact ⟨hmode, hbuffer⟩

/-- **When a report is handled safely.** Whatever the state of the agent, a report is
handled safely exactly if the metrics that decide the mode can be compared. -/
theorem update_fail_safe_iff (self : EdgeAgent) (quality : NetworkQuality) :
    FailSafe self quality (self.update_network_quality quality).1 ↔ quality.Decisive := by
  rw [failSafe_iff, update_mode_eq]
  -- the branches of `determine_mode`, the worst first
  by_cases hoffline : quality.is_offline = true
  · rw [if_pos hoffline]
    -- offline is always a safe answer, and nothing is promised of it
    exact iff_of_true ⟨fun h => absurd h (by decide), fun h => absurd h (by decide)⟩
      (Or.inl hoffline)
  · rw [if_neg hoffline]
    rw [Bool.not_eq_true] at hoffline
    rw [decisive_iff hoffline]
    by_cases hdegraded : quality.is_degraded = true
    · rw [if_pos hdegraded, if_pos hdegraded]
      exact ⟨fun h => h.2 rfl, fun h => ⟨fun hmode => absurd hmode (by decide), fun _ => h⟩⟩
    · rw [if_neg hdegraded, if_neg hdegraded]
      exact ⟨fun h => h.1 rfl, fun h => ⟨fun _ => h, fun hmode => absurd hmode (by decide)⟩⟩

/-! ## A report of no numbers

Every test of the source is `>`, which is false of a NaN, so a report with nothing in it reads
as the best of links. The run below is what that costs: an agent has spooled a frame while it
was offline, the report takes it `Online`, and going `Online` clears the buffer. -/

/-- A report whose metrics are all NaN. -/
def no_numbers : NetworkQuality := ⟨.nan, .nan, .nan, .nan, 0⟩

/-- An agent that spooled a frame offline goes `Online` on it, and its buffer is empty. -/
theorem no_numbers_not_fail_safe :
    let spooled := (run 5 [.update_network_quality ⟨F64.ofInt 6000, F64.ofInt 0, F64.ofInt 0,
      F64.ofInt 0, 0⟩, .process_frame ⟨0, "192.168.1.1", none, 0, [1, 2, 3, 4]⟩ 0]).1
    spooled.context_buffer.frames ≠ [] ∧
      (spooled.update_network_quality no_numbers).1.mode = .Online ∧
      (spooled.update_network_quality no_numbers).1.context_buffer.frames = [] ∧
      ¬ FailSafe spooled no_numbers (spooled.update_network_quality no_numbers).1 := by
  intro spooled
  have hmode : (spooled.update_network_quality no_numbers).1.mode = .Online := by
    decide +kernel
  refine ⟨by decide +kernel, hmode, by decide +kernel, ?_⟩
  intro h
  exact (h.online hmode).not_unusable (Or.inl rfl)

end EdgeAgent

end SovereignEdgeTee
