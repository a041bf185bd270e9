import RiskGauge.Analysis.Report
import RiskGauge.Proofs.Analysis.Counts
import RiskGauge.Proofs.Score.Convert
import RiskGauge.Script.Parse

/-!
# When there is a report

A source that can be analysed has a report unless one of its numbers has no double
(`Report.ofMetrics_cases`). For a text of fewer than `2 ^ 1000` characters this can only be the number of bytes: all
counts have a double (`Analyzer.convertible_of_analyze`), but a size is as large as the text writes it.
-/

namespace RiskGauge

open Binary64 (overflow)

/-! ## The report for given metrics -/

namespace Report

variable {m : Metrics Float} {w : Weights Float}

theorem metrics_of_ofMetrics {weights : Except WeightsError (Weights Float)} {r : Report}
    (h : ofMetrics m weights = .ok r) : r.metrics = m := by
  unfold ofMetrics at h
  split at h <;> cases h
  rfl

/-- Metrics have a report exactly if they are convertible, and else a number is refused. -/
theorem ofMetrics_cases (m : Metrics Float) (w : Weights Float) :
    m.Convertible ∧ (∃ r, ofMetrics m (.ok w) = .ok r) ∨
      ¬ m.Convertible ∧ ∃ e, ofMetrics m (.ok w) = .error (.numeric e) := by
  have hsignals := Metrics.exists_signals_iff Curves.float (m := m)
  cases hs : m.signals Curves.float with
  | ok signals =>
    have hm : m.Convertible := hsignals.mp ⟨signals, hs⟩
    obtain ⟨dimensions, hd⟩ := Metrics.exists_dimensions Curves.float (Metrics.convertible_iff_bytes.mp hm).1
    exact .inl ⟨hm, _, by simp only [ofMetrics, hd, hs]; rfl⟩
  | error e =>
    have hm : ¬ m.Convertible := by
      intro hm
      obtain ⟨signals, hok⟩ := hsignals.mpr hm
      rw [hs] at hok
      cases hok
    cases hd : m.dimensions Curves.float with
    | error e' => exact .inr ⟨hm, e', by simp only [ofMetrics, hd]⟩
    | ok dimensions => exact .inr ⟨hm, e, by simp only [ofMetrics, hd, hs]⟩

/-- A number of bytes without a double is refused by its own error. -/
theorem ofMetrics_eq_error (hm : { m with bytes := 0 }.Convertible) (hbytes : overflow ≤ m.bytes.natAbs) :
    ofMetrics m (.ok w) = .error (.numeric .numberTooLarge) := by
  obtain ⟨dimensions, hd⟩ := Metrics.exists_dimensions Curves.float hm
  simp only [ofMetrics, hd, Metrics.signals_eq_error Curves.float hm hbytes]

end Report

/-! ## The metrics of an analysis -/

namespace Analyzer

variable {a : Analyzer} {s : Source} {m : Metrics Float} {w : Weights Float}

/-- What an analysis gives: the metrics of nothing for a blank text, and else those of the scans. -/
theorem analyze_cases (h : a.analyze s = .ok m) :
    m = { Metrics.neutral with reputation := Permission.reputation [], reasons := a.warnings } ∨
      ∃ memory security, Memory.scan s.code = .ok memory ∧
        m = a.metricsOf s ⟨Complexity.scan s.code, memory, External.scan s.code⟩ security := by
  unfold analyze at h
  split at h
  · exact .inl (Except.ok.inj h).symm
  · split at h
    · cases h
    · next resource hresource =>
      simp only [Resource.scan, bind_eq_ok, pure_eq_ok] at hresource
      obtain ⟨memory, hmemory, rfl⟩ := hresource
      split at h
      · cases h
      · next security _ => exact .inr ⟨memory, security, hmemory, (Except.ok.inj h).symm⟩

/-- All counts of an analysis have a double. -/
theorem convertible_of_analyze (h : a.analyze s = .ok m) (hlength : s.code.length < 2 ^ 1000) :
    { m with bytes := 0 }.Convertible := by
  have hroom := Binary64.mul_succ_le_overflow hlength
  obtain rfl | ⟨memory, security, hmemory, rfl⟩ := analyze_cases h
  · constructor <;> simp only [Metrics.neutral]
    case apiChanges => exact Binary64.natAbs_lt_overflow_mul (n := 0) (t := 0) (k := 0) (by omega) (by omega)
    case changedLines => exact Binary64.natAbs_lt_overflow_mul (n := 0) (t := 1) (k := 0) (by omega) (by omega)
    all_goals omega
  · have hapi := s.changes_apiDiff_le a.reader
    have hlines := ChangedLines.count_le s.code s.before
    have hbranching := Complexity.branching_le s.code
    have hdepth := Complexity.loopDepth_le s.code
    have hallocations := Memory.allocations_le hmemory
    have hnetwork := External.networkWord.count_le s.code
    have hfiles := External.fileCall.count_le s.code
    simp only [ChangedLines.cap] at hlines
    constructor <;> simp only [metricsOf, External.scan]
    case apiChanges => exact Binary64.natAbs_lt_overflow_mul (k := 3) (by omega) (by omega)
    case changedLines =>
      refine Binary64.natAbs_lt_overflow_mul (k := s.code.length + 200) (Nat.le_trans hlines ?_) (by omega)
      exact Nat.le_mul_of_pos_right _ (by omega)
    all_goals omega

/-! ## The report on a source -/

theorem assess_of_analyze (h : a.analyze s = .ok m) : a.assess s (.ok w) = Report.ofMetrics m (.ok w) := by
  simp only [assess, h]

/-- A source that cannot be analysed has no report, and one that can be has one unless a number of its metrics has
no double. In a text of fewer than `2 ^ 1000` characters that is the number of bytes. -/
theorem assess_reports_convertible (a : Analyzer) (s : Source) (w : Weights Float) :
    (∀ e, a.analyze s = .error e → a.assess s (.ok w) = .error (.analysis e)) ∧
    (∀ m, a.analyze s = .ok m →
      m.Convertible ∧ (∃ r, a.assess s (.ok w) = .ok r ∧ r.metrics = m) ∨
      ¬ m.Convertible ∧ ∃ e, a.assess s (.ok w) = .error (.numeric e)) ∧
    (s.code.length < 2 ^ 1000 → ∀ m, a.analyze s = .ok m →
      (m.Convertible ↔ m.bytes.natAbs < overflow) ∧
      (a.assess s (.ok w) = .error (.numeric .numberTooLarge) ↔ overflow ≤ m.bytes.natAbs)) := by
  refine ⟨fun e h => ?_, fun m h => ?_, fun hlength m h => ?_⟩
  · simp only [assess, h]
  · rw [assess_of_analyze h]
    obtain ⟨hm, r, hr⟩ | hrefused := Report.ofMetrics_cases m w
    · exact .inl ⟨hm, r, hr, Report.metrics_of_ofMetrics hr⟩
    · exact .inr hrefused
  · have hcounts := convertible_of_analyze h hlength
    have hm : m.Convertible ↔ m.bytes.natAbs < overflow := by
      rw [Metrics.convertible_iff_bytes, and_iff_right hcounts]
    refine ⟨hm, ?_⟩
    rw [assess_of_analyze h]
    constructor
    · intro herror
      obtain ⟨-, r, hr⟩ | ⟨hrefused, -⟩ := Report.ofMetrics_cases m w
      · rw [herror] at hr
        cases hr
      · rw [hm] at hrefused
        omega
    · exact Report.ofMetrics_eq_error hcounts

/-- A source that allocates a buffer of the size that the digits write. -/
def bufferSource (digits : List Char) : Source where
  code := "Buffer.alloc(".toList ++ digits ++ [')']

/-- A buffer of an ordinary size has a report. -/
theorem buffer_reported :
    ∃ r, ({ reader := Script.parse } : Analyzer).assess (bufferSource ['6', '4']) (.ok .standard) = .ok r ∧
      r.metrics.bytes = 64 := by
  obtain ⟨m, hm, hbytes⟩ := exists_ok_of_toOption_map (f := Metrics.bytes) (b := 64)
    (x := ({ reader := Script.parse } : Analyzer).analyze (bufferSource ['6', '4'])) (by decide +kernel)
  obtain ⟨-, hcases, hsmall⟩ :=
    assess_reports_convertible { reader := Script.parse } (bufferSource ['6', '4']) .standard
  have hlt : m.bytes.natAbs < overflow := by
    rw [hbytes]
    decide +kernel
  have hconvertible := (hsmall (by decide +kernel) m hm).1.mpr hlt
  obtain ⟨-, r, hr, rfl⟩ | ⟨hnot, -⟩ := hcases m hm
  · exact ⟨r, hr, hbytes⟩
  · exact absurd hconvertible hnot

/-- A buffer of a size that has no double is analysed, and has no report all the same. -/
theorem huge_buffer_refused :
    (∃ m, ({ reader := Script.parse } : Analyzer).analyze (bufferSource (List.replicate 310 '9')) = .ok m) ∧
    ∀ w, ({ reader := Script.parse } : Analyzer).assess (bufferSource (List.replicate 310 '9')) (.ok w) =
      .error (.numeric .numberTooLarge) := by
  obtain ⟨m, hm, hbytes⟩ := exists_ok_of_toOption_map (f := Metrics.bytes) (b := 10 ^ 310 - 1)
    (x := ({ reader := Script.parse } : Analyzer).analyze (bufferSource (List.replicate 310 '9')))
    (by decide +kernel)
  have hle : overflow ≤ m.bytes.natAbs := by
    rw [hbytes]
    decide +kernel
  refine ⟨⟨m, hm⟩, fun w => ?_⟩
  rw [assess_of_analyze hm]
  exact Report.ofMetrics_eq_error (convertible_of_analyze hm (by decide +kernel)) hle

end Analyzer

end RiskGauge
