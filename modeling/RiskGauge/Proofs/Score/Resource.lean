import Mathlib.Order.Interval.Set.Defs
import RiskGauge.Proofs.Curves
import RiskGauge.Score.Metrics

/-!
# More costs, more use of resources

The use of resources is a weighted sum of five terms, each of them cut to the range from zero to one: the class of the
running time, the branching, the memory, and the calls to the network and to files. Over the numbers of an ordered
field nothing is refused, and each term is a number (`Curve.saturateInt_eq`, `Metrics.memory_eq`,
`Metrics.resource_eq`). None of them falls when the quantity behind it grows, as long as the curves never fall
(`Curves.Rising`), so the sum does not either (`Metrics.resource_mono`). Which values the curves take does not matter:
whatever they give is cut.
-/

namespace RiskGauge

attribute [local instance] Scalar.ofField

/-- The exponential never falls, and neither does the logarithm of a count that is not zero. -/
structure Curves.Rising {K : Type} [LinearOrder K] (curves : Curves K) : Prop where
  exp : Monotone curves.exp
  log2 : MonotoneOn curves.log2 (Set.Ici 1)

theorem Curves.real_rising : Curves.real.Rising where
  exp := Real.exp_monotone
  log2 := by
    intro a ha b _ hab
    have hpos : (0 : ℝ) < a := Nat.cast_pos.mpr ha
    exact Real.logb_le_logb_of_le one_lt_two hpos (Nat.cast_le.mpr hab)

variable {K : Type} [Field K] [LinearOrder K] [IsStrictOrderedRing K] {curves : Curves K}

/-! ## The terms -/

namespace Curve

theorem saturate_eq (curves : Curves K) (x k : K) :
    saturate curves x k = Scalar.clamp (1 - curves.exp (-k * max 0 x)) := by
  rw [saturate, Scalar.greater_eq_max]
  norm_num

/-- A curve with a rate that is not negative never falls. -/
theorem saturate_mono (hcurves : curves.Rising) {x y k : K} (hk : 0 ≤ k) (hxy : x ≤ y) :
    saturate curves x k ≤ saturate curves y k := by
  have hfloor : max 0 x ≤ max 0 y := max_le_max le_rfl hxy
  have hpower : -k * max 0 y ≤ -k * max 0 x := mul_le_mul_of_nonpos_left hfloor (neg_nonpos.mpr hk)
  rw [saturate_eq, saturate_eq]
  exact Scalar.clamp_mono (sub_le_sub_left (hcurves.exp hpower) 1)

/-- Exactly, the curve takes whole numbers of any size, and those below zero as zero. -/
theorem saturateInt_eq (curves : Curves K) (n : Int) (k : K) :
    saturateInt curves n k = .ok (saturate curves (n : K) k) := by
  by_cases hn : 0 < n
  · rw [saturateInt, if_pos hn]
    rfl
  · have hfloor : max 0 (n : K) = max 0 0.0 := by
      have hcast : (n : K) ≤ 0 := Int.cast_nonpos.mpr (not_lt.mp hn)
      rw [max_eq_left hcast]
      norm_num
    rw [saturateInt, if_neg hn, saturate_eq, hfloor, ← saturate_eq]
    rfl

end Curve

namespace Metrics

variable {m n : Metrics K}

/-- One source costs at most what another one does, in every quantity that its use of resources is computed from. -/
structure CostsAtMost (m n : Metrics K) : Prop where
  bigO : (m.bigO.severity : K) ≤ n.bigO.severity
  branching : m.branching ≤ n.branching
  bytes : m.bytes ≤ n.bytes
  allocations : m.allocations ≤ n.allocations
  networkCalls : m.networkCalls ≤ n.networkCalls
  fileCalls : m.fileCalls ≤ n.fileCalls

/-- The bytes on a logarithmic scale, cut to the range from zero to one. -/
def byteScale (curves : Curves K) (m : Metrics K) : K :=
  Scalar.clamp (curves.log2 (max 1 m.bytes).toNat / 24.0)

theorem byteScale_mono (hcurves : curves.Rising) (h : m.bytes ≤ n.bytes) : m.byteScale curves ≤ n.byteScale curves := by
  have hcount : (max 1 m.bytes).toNat ≤ (max 1 n.bytes).toNat := Int.toNat_le_toNat (max_le_max le_rfl h)
  have hleast : 1 ≤ (max 1 m.bytes).toNat := by omega
  have hlog := hcurves.log2 (Set.mem_Ici.mpr hleast) (Set.mem_Ici.mpr (hleast.trans hcount)) hcount
  refine Scalar.clamp_mono (div_le_div_of_nonneg_right hlog ?_)
  norm_num

/-- The exact use of memory. -/
def memoryUse (curves : Curves K) (m : Metrics K) : K :=
  Scalar.clamp (0.7 * m.byteScale curves + (1.0 - 0.7) * Curve.saturate curves (m.allocations : K) 0.06)

theorem memory_eq (curves : Curves K) (m : Metrics K) : m.memory curves = .ok (m.memoryUse curves) := by
  rw [memory, Curve.saturateInt_eq]
  rfl

theorem memoryUse_mono (hcurves : curves.Rising) (h : m.CostsAtMost n) :
    m.memoryUse curves ≤ n.memoryUse curves := by
  have hbytes := byteScale_mono hcurves h.bytes
  have hallocations := Curve.saturate_mono hcurves (k := 0.06) (by norm_num) (Int.cast_mono (R := K) h.allocations)
  refine Scalar.clamp_mono (add_le_add ?_ ?_)
  · exact mul_le_mul_of_nonneg_left hbytes (by norm_num)
  · exact mul_le_mul_of_nonneg_left hallocations (by norm_num)

/-! ## The sum -/

/-- The exact use of resources. -/
def resourceUse (curves : Curves K) (m : Metrics K) : K :=
  Scalar.clamp (m.bigO.severity * 0.32 + Curve.saturate curves ((m.branching - 1 : Int) : K) 0.12 * 0.18
    + m.memoryUse curves * 0.22 + Curve.saturate curves (m.networkCalls : K) 0.05 * 0.18
    + Curve.saturate curves (m.fileCalls : K) 0.06 * 0.10)

theorem resource_eq (curves : Curves K) (m : Metrics K) : m.resource curves = .ok (m.resourceUse curves) := by
  simp only [resource, Curve.saturateInt_eq, memory_eq]
  rfl

theorem resourceUse_mono (hcurves : curves.Rising) (h : m.CostsAtMost n) :
    m.resourceUse curves ≤ n.resourceUse curves := by
  have hbranching : m.branching - 1 ≤ n.branching - 1 := Int.sub_le_sub_right h.branching 1
  have hterm : ∀ {a b : Int} {k : K}, 0 ≤ k → a ≤ b →
      Curve.saturate curves (a : K) k ≤ Curve.saturate curves (b : K) k :=
    fun hk hab => Curve.saturate_mono hcurves hk (Int.cast_mono hab)
  refine Scalar.clamp_mono (add_le_add (add_le_add (add_le_add (add_le_add ?_ ?_) ?_) ?_) ?_)
  · exact mul_le_mul_of_nonneg_right h.bigO (by norm_num)
  · exact mul_le_mul_of_nonneg_right (hterm (by norm_num) hbranching) (by norm_num)
  · exact mul_le_mul_of_nonneg_right (memoryUse_mono hcurves h) (by norm_num)
  · exact mul_le_mul_of_nonneg_right (hterm (by norm_num) h.networkCalls) (by norm_num)
  · exact mul_le_mul_of_nonneg_right (hterm (by norm_num) h.fileCalls) (by norm_num)

/-- A source that costs more, in whole numbers of any sign and size, does not use fewer resources, and the use of
resources is a number from zero to one. -/
theorem resource_mono (hcurves : curves.Rising) (h : m.CostsAtMost n) :
    ∃ r s, m.resource curves = .ok r ∧ n.resource curves = .ok s ∧ 0 ≤ r ∧ r ≤ s ∧ s ≤ 1 :=
  ⟨m.resourceUse curves, n.resourceUse curves, resource_eq curves m, resource_eq curves n, Scalar.clamp_nonneg _,
    resourceUse_mono hcurves h, Scalar.clamp_le_one _⟩

/-- Counts below zero against those of a source with a huge buffer, on the curves of the real numbers. -/
theorem resource_mono_huge_buffer :
    let m : Metrics ℝ := { (neutral : Metrics ℝ) with branching := -3, bytes := -1, allocations := -7 }
    let n : Metrics ℝ :=
      { (neutral : Metrics ℝ) with bigO := .quadratic, branching := 12, bytes := 10 ^ 400, fileCalls := 2 }
    Curves.real.Rising ∧ m.CostsAtMost n ∧
      ∃ r s, m.resource Curves.real = .ok r ∧ n.resource Curves.real = .ok s ∧ 0 ≤ r ∧ r ≤ s ∧ s ≤ 1 := by
  intro m n
  have hseverity : (m.bigO.severity : ℝ) ≤ n.bigO.severity := by
    show (0.50 : ℝ) ≤ 0.70
    norm_num
  have hcosts : m.CostsAtMost n := ⟨hseverity, by decide, by decide, by decide, by decide, by decide⟩
  have hmono := resource_mono Curves.real_rising hcosts
  exact ⟨Curves.real_rising, hcosts, hmono⟩

end Metrics

end RiskGauge
