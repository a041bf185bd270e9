import Mathlib.Tactic.MkIffOfInductiveProp
import RiskGauge.Proofs.Decimal.Binary64
import RiskGauge.Proofs.Failure
import RiskGauge.Score.Metrics

/-!
# Metrics that can be scored

The dimensions and the quantities behind them are doubles, computed from whole numbers of any size. They exist
exactly for metrics all of whose numbers have a double (`Metrics.Convertible`, `Metrics.exists_signals_iff`).
-/

namespace RiskGauge

open Binary64 (overflow)

namespace Scalar

/-- A whole number has a double below `overflow`. -/
theorem exists_ofInt?_iff {n : Int} : (∃ x : Float, ofInt? n = .ok x) ↔ n.natAbs < overflow := by
  have hnone := Binary64.ofInt?_eq_none_iff (n := n)
  cases h : Binary64.ofInt? n with
  | none => simpa [ofInt?, h] using hnone
  | some x => simpa [ofInt?, h] using hnone

theorem ofInt?_eq_error {n : Int} (h : overflow ≤ n.natAbs) :
    (ofInt? n : Except NumericError Float) = .error .numberTooLarge := by
  simp only [ofInt?, Binary64.ofInt?_eq_none_iff.mpr h]

/-- A quotient has a double unless the upper number is `overflow` times the lower one or more. -/
theorem exists_quotient?_iff {a b : Int} (hb : 0 < b) :
    (∃ x : Float, quotient? a b = .ok x) ↔ a.natAbs < overflow * b.natAbs := by
  have hnone := Binary64.ofRatio?_eq_none_iff ((a < 0) != (b < 0)) (n := a.natAbs) (Int.natAbs_pos.mpr hb.ne')
  cases h : Binary64.ofRatio? ((a < 0) != (b < 0)) a.natAbs b.natAbs with
  | none => simpa [quotient?, h] using hnone
  | some x => simpa [quotient?, h] using hnone

end Scalar

theorem Curve.exists_saturateInt_iff {curves : Curves Float} {n : Int} {k : Float} :
    (∃ x, Curve.saturateInt curves n k = .ok x) ↔ n < overflow := by
  have hpos := Binary64.overflow_pos
  by_cases hn : 0 < n
  · simp only [saturateInt, if_pos hn, exists_bind_ok, exists_pure_ok, and_true, Scalar.exists_ofInt?_iff]
    omega
  · simp only [saturateInt, if_neg hn, exists_bind_ok, exists_pure_ok, and_true, true_iff]
    omega

namespace Metrics

/-- All numbers that the scores are computed from have a double. -/
@[mk_iff]
structure Convertible {α : Type} (m : Metrics α) : Prop where
  apiChanges : m.apiChanges.natAbs < overflow * (max 1 m.totalApis).natAbs
  changedLines : m.changedLines.natAbs < overflow * (max 1 m.totalLines).natAbs
  branching : m.branching.natAbs < overflow
  loopDepth : m.loopDepth.natAbs < overflow
  bytes : m.bytes.natAbs < overflow
  allocations : m.allocations < overflow
  networkCalls : m.networkCalls < overflow
  fileCalls : m.fileCalls < overflow

variable {m : Metrics Float} (curves : Curves Float)

/-- Metrics are convertible if they are so with the bytes set aside, and the bytes have a double. -/
theorem convertible_iff_bytes : m.Convertible ↔ { m with bytes := 0 }.Convertible ∧ m.bytes.natAbs < overflow := by
  constructor
  · intro h
    exact ⟨{ h with bytes := Binary64.overflow_pos }, h.bytes⟩
  · rintro ⟨h, hbytes⟩
    exact { h with bytes := hbytes }

theorem exists_apiRatio_iff :
    (∃ x, m.apiRatio = .ok x) ↔ m.apiChanges.natAbs < overflow * (max 1 m.totalApis).natAbs := by
  simp only [apiRatio, exists_bind_ok, exists_pure_ok, and_true]
  exact Scalar.exists_quotient?_iff (by omega)

theorem exists_lineRatio_iff :
    (∃ x, m.lineRatio = .ok x) ↔ m.changedLines.natAbs < overflow * (max 1 m.totalLines).natAbs := by
  simp only [lineRatio, exists_bind_ok, exists_pure_ok, and_true]
  exact Scalar.exists_quotient?_iff (by omega)

theorem exists_memory_iff : (∃ x, m.memory curves = .ok x) ↔ m.allocations < overflow := by
  simp only [memory, exists_bind_ok, exists_pure_ok, and_true]
  exact Curve.exists_saturateInt_iff

/-- The quantities behind the dimensions exist exactly for convertible metrics. -/
theorem exists_signals_iff : (∃ x, m.signals curves = .ok x) ↔ m.Convertible := by
  simp only [signals, exists_bind_ok, exists_pure_ok, and_true, exists_and_right, exists_apiRatio_iff,
    exists_lineRatio_iff, exists_memory_iff, Scalar.exists_ofInt?_iff, Curve.exists_saturateInt_iff, convertible_iff]

/-- The number of bytes enters the dimensions by its logarithm, which every number has. -/
theorem exists_dimensions (h : { m with bytes := 0 }.Convertible) : ∃ x, m.dimensions curves = .ok x := by
  have hfunctionality : ∃ x, m.functionality = .ok x := by
    cases himpact : m.impact with
    | some f => exact ⟨_, by simp only [functionality, himpact]; rfl⟩
    | none =>
      simp only [functionality, himpact, exists_bind_ok, exists_pure_ok, and_true, exists_and_right,
        exists_apiRatio_iff, exists_lineRatio_iff]
      exact ⟨h.apiChanges, h.changedLines⟩
  have hresource : ∃ x, m.resource curves = .ok x := by
    have hbranching : m.branching.natAbs < overflow := h.branching
    simp only [resource, exists_bind_ok, exists_pure_ok, and_true, exists_and_right,
      Curve.exists_saturateInt_iff, exists_memory_iff]
    exact ⟨by omega, h.allocations, h.networkCalls, h.fileCalls⟩
  simp only [dimensions, exists_bind_ok, exists_pure_ok, and_true, exists_and_right]
  exact ⟨hfunctionality, hresource⟩

/-- A number of bytes without a double is refused among the quantities behind the dimensions. -/
theorem signals_eq_error (h : { m with bytes := 0 }.Convertible) (hbytes : overflow ≤ m.bytes.natAbs) :
    m.signals curves = .error .numberTooLarge := by
  obtain ⟨api, hapi⟩ : ∃ x, m.apiRatio = .ok x := exists_apiRatio_iff.mpr h.apiChanges
  obtain ⟨lines, hlines⟩ : ∃ x, m.lineRatio = .ok x := exists_lineRatio_iff.mpr h.changedLines
  obtain ⟨branching, hbranching⟩ : ∃ x : Float, Scalar.ofInt? m.branching = .ok x :=
    Scalar.exists_ofInt?_iff.mpr h.branching
  obtain ⟨depth, hdepth⟩ : ∃ x : Float, Scalar.ofInt? m.loopDepth = .ok x :=
    Scalar.exists_ofInt?_iff.mpr h.loopDepth
  have hrefused := Scalar.ofInt?_eq_error hbytes
  simp only [signals, hapi, hlines, hbranching, hdepth, hrefused]
  rfl

end Metrics

end RiskGauge
