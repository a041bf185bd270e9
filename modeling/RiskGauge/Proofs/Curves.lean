import Mathlib.Analysis.SpecialFunctions.Log.Base
import Mathlib.Analysis.SpecialFunctions.Pow.Real
import RiskGauge.Proofs.Exact

/-!
# Exact curves

Over the numbers of an ordered field a root can be exact (`Curves.ExactRoot`): it is not negative, and its square gives
the number back. This determines it, so an exact root is positive for positive numbers (`ExactRoot.pos`) and takes out
squares (`ExactRoot.sq_mul`). The curves of the real numbers (`Curves.real`) have an exact root.
-/

namespace RiskGauge.Curves

variable {K : Type} [Field K] [LinearOrder K]

/-- The root is exact for all numbers that have one. -/
structure ExactRoot (curves : Curves K) : Prop where
  nonneg : ∀ x, 0 ≤ x → 0 ≤ curves.sqrt x
  mul_self : ∀ x, 0 ≤ x → curves.sqrt x * curves.sqrt x = x

namespace ExactRoot

variable {curves : Curves K} (h : curves.ExactRoot)

include h

theorem pos {x : K} (hx : 0 < x) : 0 < curves.sqrt x := by
  refine lt_of_le_of_ne (h.nonneg x hx.le) fun hzero => hx.ne ?_
  rw [← h.mul_self x hx.le, ← hzero, mul_zero]

/-- The root of a number that is multiplied by a square. -/
theorem sq_mul [IsStrictOrderedRing K] {c x : K} (hc : 0 ≤ c) (hx : 0 ≤ x) :
    curves.sqrt (c ^ 2 * x) = c * curves.sqrt x := by
  have hcx : 0 ≤ c ^ 2 * x := mul_nonneg (sq_nonneg c) hx
  refine (mul_self_inj (h.nonneg _ hcx) (mul_nonneg hc (h.nonneg x hx))).mp ?_
  calc
    curves.sqrt (c ^ 2 * x) * curves.sqrt (c ^ 2 * x) = c ^ 2 * x := h.mul_self _ hcx
    _ = c ^ 2 * (curves.sqrt x * curves.sqrt x) := by rw [h.mul_self x hx]
    _ = c * curves.sqrt x * (c * curves.sqrt x) := by ring

end ExactRoot

/-- The curves of the real numbers. -/
noncomputable def real : Curves ℝ where
  exp := Real.exp
  log2 n := Real.logb 2 n
  sqrt := Real.sqrt
  pow x y := x ^ y

theorem real_exactRoot : real.ExactRoot where
  nonneg x _ := Real.sqrt_nonneg x
  mul_self _ := Real.mul_self_sqrt

end RiskGauge.Curves
