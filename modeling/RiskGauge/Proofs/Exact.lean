import Mathlib.Algebra.Order.Field.Basic
import Mathlib.Algebra.Order.Ring.Rat
import Mathlib.Tactic.NormNum
import RiskGauge.Scalar

/-!
# Exact scalars

The numbers of an ordered field are scalars with the operations of the field, and nothing is rounded
(`Scalar.ofField`). Exact scores are computed over the rationals. On exact scalars the choices of `Scalar` are
those of the order, and its sum is that of the field:

* `greater_eq_max`, `smaller_eq_min`: the greater and the smaller of two numbers;
* `clamp_eq`: the cut to the range from zero to one, with `clamp_nonneg`, `clamp_le_one`, `clamp_mono` and
  `clamp_of_mem`;
* `sum_eq`: the sum of a list.
-/

namespace RiskGauge.Scalar

/-- The exact scalars of an ordered field. -/
@[reducible] def ofField (K : Type) [Field K] [LinearOrder K] : Scalar K where
  decLt := inferInstance
  decLe := inferInstance
  isZero x := decide (x = 0)
  ofNat n := n
  ofInt? n := .ok n
  quotient? a b := .ok (a / b)

instance : Scalar ℚ := ofField ℚ

@[simp] theorem ofNat_rat (n : Nat) : (Scalar.ofNat n : ℚ) = n := rfl

@[simp] theorem isZero_rat (x : ℚ) : Scalar.isZero x = decide (x = 0) := rfl

section Field

variable {K : Type} [Field K] [LinearOrder K]

theorem greater_eq_max (a b : K) : @greater K (ofField K) a b = max a b := by
  unfold greater
  split
  · rename_i h
    exact (max_eq_right h.le).symm
  · rename_i h
    exact (max_eq_left (not_lt.mp h)).symm

theorem smaller_eq_min (a b : K) : @smaller K (ofField K) a b = min a b := by
  unfold smaller
  split
  · rename_i h
    exact (min_eq_right h.le).symm
  · rename_i h
    exact (min_eq_left (not_lt.mp h)).symm

variable [IsStrictOrderedRing K]

theorem clamp_eq (x : K) : @clamp K (ofField K) x = max 0 (min 1 x) := by
  unfold clamp
  rw [greater_eq_max, smaller_eq_min]
  norm_num

theorem clamp_nonneg (x : K) : 0 ≤ @clamp K (ofField K) x := by
  rw [clamp_eq]
  exact le_max_left 0 _

theorem clamp_le_one (x : K) : @clamp K (ofField K) x ≤ 1 := by
  rw [clamp_eq]
  exact max_le zero_le_one (min_le_left 1 x)

theorem clamp_mono {x y : K} (h : x ≤ y) : @clamp K (ofField K) x ≤ @clamp K (ofField K) y := by
  rw [clamp_eq, clamp_eq]
  exact max_le_max le_rfl (min_le_min le_rfl h)

/-- A number that is in the range stays as it is. -/
theorem clamp_of_mem {x : K} (h₀ : 0 ≤ x) (h₁ : x ≤ 1) : @clamp K (ofField K) x = x := by
  rw [clamp_eq, min_eq_right h₁, max_eq_right h₀]

theorem sum_eq (xs : List K) : @sum K (ofField K) xs = xs.sum := by
  rw [List.sum_eq_foldl]
  unfold sum
  norm_num

end Field

end RiskGauge.Scalar
