import Mathlib.Algebra.Order.Ring.Nat
import Mathlib.Tactic.Ring
import RiskGauge.Scalar

/-!
# Which numbers have a double

A fraction is too large for every double from halfway between the largest double and the next power of two on
(`ofRatio?_eq_none_iff`), and so a whole number has a double exactly if it is smaller than `overflow`
(`ofInt?_eq_none_iff`).
-/

namespace RiskGauge

namespace Binary64

/-- The least whole number that is too large for every double: `2 ^ 1024 - 2 ^ 970`. -/
def overflow : Nat :=
  (2 ^ 54 - 1) * 2 ^ 970

theorem overflow_eq : overflow = (2 ^ 54 - 1) * 2 ^ 970 := by
  rw [overflow]

-- far too large to be computed with
attribute [irreducible] overflow

theorem overflow_le : overflow ≤ 2 ^ 1024 :=
  calc overflow = (2 ^ 54 - 1) * 2 ^ 970 := overflow_eq
    _ ≤ 2 ^ 54 * 2 ^ 970 := Nat.mul_le_mul_right _ (Nat.sub_le ..)
    _ = 2 ^ 1024 := by simp only [← pow_add, Nat.reduceAdd]

theorem le_overflow : 2 ^ 1023 ≤ overflow :=
  calc 2 ^ 1023 = 2 ^ 53 * 2 ^ 970 := by simp only [← pow_add, Nat.reduceAdd]
    _ ≤ (2 ^ 54 - 1) * 2 ^ 970 := Nat.mul_le_mul_right _ (by decide)
    _ = overflow := overflow_eq.symm

theorem overflow_pos : 0 < overflow :=
  Nat.lt_of_lt_of_le (Nat.pow_pos Nat.two_pos) le_overflow

/-! ## Rounding -/

/-- A quotient is rounded to an even number or above from half below that number on. -/
theorem roundDiv_lt_iff {n d : Nat} (k : Nat) (hd : 0 < d) :
    roundDiv n d < 2 * k + 2 ↔ 2 * n < (4 * k + 3) * d := by
  have hn := Nat.div_add_mod n d
  have hr := Nat.mod_lt n hd
  generalize hq : n / d = q at hn
  generalize hm : n % d = r at hn hr
  have hround : roundDiv n d = if 2 * r < d then q else if d < 2 * r then q + 1 else q + q % 2 := by
    simp only [roundDiv, hq, hm]
  have hbound : (4 * k + 3) * d = 4 * (d * k) + 3 * d := by ring
  rw [hround, ← hn, hbound]
  rcases Nat.lt_trichotomy q (2 * k + 1) with hlt | rfl | hgt
  · have hle : d * q ≤ d * (2 * k) := Nat.mul_le_mul_left d (by omega)
    have hdouble : d * (2 * k) = 2 * (d * k) := by ring
    split_ifs <;> omega
  · have hdouble : d * (2 * k + 1) = 2 * (d * k) + d := by ring
    split_ifs <;> omega
  · have hle : d * (2 * k + 2) ≤ d * q := Nat.mul_le_mul_left d (by omega)
    have hdouble : d * (2 * k + 2) = 2 * (d * k) + 2 * d := by ring
    split_ifs <;> omega

/-- When a fraction, scaled down, rounds to a significand. -/
theorem roundScaled_lt_iff {n d : Nat} (e : Nat) (hd : 0 < d) :
    roundScaled n d e < twoTo 53 ↔ 2 * n < (2 ^ 54 - 1) * (d * 2 ^ e) := by
  have hpos : 0 < d * 2 ^ e := Nat.mul_pos hd (Nat.two_pow_pos e)
  have hscaled : roundScaled n d e = roundDiv n (d * 2 ^ e) := if_pos (Int.natCast_nonneg e)
  rw [hscaled]
  exact roundDiv_lt_iff (2 ^ 52 - 1) hpos

/-! ## Numbers without a double -/

/-- The largest exponent of a double is enough exactly below `overflow`. -/
theorem roundScaled_top_lt_iff {n d : Nat} (hd : 0 < d) :
    roundScaled n d 971 < twoTo 53 ↔ n < overflow * d := by
  have hdouble : (2 ^ 54 - 1) * (d * 2 ^ 971) = 2 * (overflow * d) := by
    have hpow : (2 : Nat) ^ 971 = 2 ^ 970 * 2 := by simp only [← pow_succ, Nat.reduceAdd]
    rw [overflow_eq, hpow]
    generalize (2 : Nat) ^ 970 = unit
    ring
  have hiff := roundScaled_lt_iff 971 hd (n := n)
  rw [hdouble] at hiff
  exact hiff.trans (by omega)

/-- A significand stays one if it is scaled down once more. -/
theorem roundScaled_succ_lt {n d e : Nat} (hd : 0 < d) (h : roundScaled n d e < twoTo 53) :
    roundScaled n d (e + 1 : Nat) < twoTo 53 := by
  rw [roundScaled_lt_iff _ hd] at h ⊢
  refine Nat.lt_of_lt_of_le h (Nat.mul_le_mul_left _ (Nat.mul_le_mul_left _ ?_))
  exact Nat.pow_le_pow_right (by decide) (Nat.le_succ e)

/-- A fraction with far more binary digits above than below is too large. -/
theorem overflow_le_of_log2 {n d : Nat} (hn : n ≠ 0) (h : d.log2 + 1025 ≤ n.log2) : overflow * d ≤ n := by
  have hd : d ≤ 2 ^ (d.log2 + 1) := Nat.lt_log2_self.le
  calc overflow * d ≤ 2 ^ 1024 * 2 ^ (d.log2 + 1) := Nat.mul_le_mul overflow_le hd
    _ = 2 ^ (d.log2 + 1025) := by rw [← pow_add]; congr 1; omega
    _ ≤ 2 ^ n.log2 := Nat.pow_le_pow_right (by decide) h
    _ ≤ n := Nat.log2_self_le hn

/-- A fraction with not so many more binary digits above than below is not too large. -/
theorem lt_overflow_of_log2 {n d : Nat} (hd : d ≠ 0) (h : n.log2 + 1 ≤ d.log2 + 1023) : n < overflow * d :=
  calc n < 2 ^ (n.log2 + 1) := Nat.lt_log2_self
    _ ≤ 2 ^ (d.log2 + 1023) := Nat.pow_le_pow_right (by decide) h
    _ = 2 ^ 1023 * 2 ^ d.log2 := by rw [← pow_add]; congr 1; omega
    _ ≤ overflow * d := Nat.mul_le_mul le_overflow (Nat.log2_self_le hd)

/-- A fraction is too large for every double exactly from `overflow` on. -/
theorem ofRatio?_eq_none_iff (negative : Bool) {n d : Nat} (hd : 0 < d) :
    ofRatio? negative n d = none ↔ overflow * d ≤ n := by
  by_cases hn : n = 0
  · have hpos := Nat.mul_pos overflow_pos hd
    simp only [ofRatio?, hn, beq_self_eq_true, if_true, reduceCtorEq, false_iff]
    omega
  have htop := roundScaled_top_lt_iff hd (n := n)
  simp only [ofRatio?, beq_iff_eq, hn, if_false]
  generalize hlow : max ((n.log2 : Int) - d.log2 - 53) (-1074) = low
  -- the rounding decides only next to the largest exponent
  obtain hsmall | rfl | rfl | hlarge : low < 970 ∨ low = (970 : Nat) ∨ low = (971 : Nat) ∨ 971 < low := by omega
  · have hlt : n < overflow * d := lt_overflow_of_log2 hd.ne' (by omega)
    split_ifs <;> simp <;> omega
  · have hsucc := roundScaled_succ_lt hd (n := n) (e := 970)
    split_ifs <;> simp_all
  · split_ifs <;> simp_all
  · have hle : overflow * d ≤ n := overflow_le_of_log2 hn (by omega)
    split_ifs <;> simp <;> omega

/-- A whole number is too large for every double exactly from `overflow` on. -/
theorem ofInt?_eq_none_iff {n : Int} : ofInt? n = none ↔ overflow ≤ n.natAbs := by
  rw [ofInt?, ofRatio?_eq_none_iff _ Nat.one_pos, Nat.mul_one]

/-! ## Numbers that have one -/

/-- Numbers of fewer than a thousand binary digits are far from `overflow`. -/
theorem mul_succ_le_overflow {n : Nat} (h : n < 2 ^ 1000) : 2 ^ 23 * (n + 1) ≤ overflow :=
  calc 2 ^ 23 * (n + 1) ≤ 2 ^ 23 * 2 ^ 1000 := Nat.mul_le_mul_left _ h
    _ = 2 ^ 1023 := by simp only [← pow_add, Nat.reduceAdd]
    _ ≤ overflow := le_overflow

/-- A quotient of at most `k` has a double if `k` has one. -/
theorem natAbs_lt_overflow_mul {n t k : Nat} (h : n ≤ k * max 1 t) (hk : k < overflow) :
    (n : Int).natAbs < overflow * (max 1 (t : Int)).natAbs := by
  have hmax : (max 1 (t : Int)).natAbs = max 1 t := by omega
  rw [hmax, Int.natAbs_natCast]
  exact Nat.lt_of_le_of_lt h (Nat.mul_lt_mul_of_pos_right hk (by omega))

theorem roundScaled_self {n : Nat} (hn : 0 < n) (k : Nat) : roundScaled n n (-(k + 1 : Nat)) = twoTo (k + 1) := by
  have hneg : ¬ 0 ≤ -((k + 1 : Nat) : Int) := by omega
  rw [roundScaled, if_neg hneg, Int.neg_neg, Int.toNat_natCast]
  simp only [roundDiv, Nat.mul_div_cancel_left _ hn, Nat.mul_mod_right, Nat.mul_zero, hn, if_true]

/-- A number divided by itself is one, however large it is. -/
theorem ofRatio?_self {n : Nat} (hn : 0 < n) : ofRatio? false n n = some 1.0 := by
  have hone : pack false (twoTo 52) (-52) = 1.0 := by decide +kernel
  have hlow : max ((n.log2 : Int) - n.log2 - 53) (-1074) = -(52 + 1 : Nat) := by omega
  have hlong : ¬ twoTo (52 + 1) < twoTo 53 := by decide
  have hnext : -((52 + 1 : Nat) : Int) + 1 = -(51 + 1 : Nat) := by omega
  have hfits : twoTo (51 + 1) < twoTo 53 := by decide
  have hsmall : ¬ (971 : Int) < -(51 + 1 : Nat) := by omega
  simp only [ofRatio?, beq_iff_eq, hn.ne', if_false, hlow, roundScaled_self hn 52, hlong, hnext, roundScaled_self hn 51,
    hfits, if_true, hsmall]
  exact congrArg some hone

end Binary64

end RiskGauge
