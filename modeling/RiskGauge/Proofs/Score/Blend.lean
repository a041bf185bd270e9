import Mathlib.Tactic.FieldSimp
import Mathlib.Tactic.Linarith
import Mathlib.Tactic.Positivity
import Mathlib.Tactic.Ring
import RiskGauge.Proofs.Exact
import RiskGauge.Score.Fusion

/-!
# The terms of the blend, exactly

What the terms of a blend are over the rationals, and the ranges that they lie in:

* `Curve.smoothstep_eq`: the step is a cubic of the clamped position in its range, so it stays between zero
  and one and never falls (`smoothstep_nonneg`, `smoothstep_le_one`, `smoothstep_mono`);
* `Blend.mean_mul`: the mean times the two weights is the weighted sum, also if both weights are zero;
* `Blend.anchored_eq`: the cut of the anchored blend at ten does nothing;
* `Blend.alpha_nonneg`, `Blend.alpha_lt_one`: the two blends are mixed, and the linear one always counts;
* `Blend.linear_le_anchored`: weights of at most one in total keep the linear blend below the anchored one;
* `Score.score_bracket`: the score between its two blends.
-/

namespace RiskGauge

namespace Weights

/-- No weight is negative. -/
structure Nonneg (w : Weights ℚ) : Prop where
  functionality : 0 ≤ w.functionality
  resource : 0 ≤ w.resource
  dependability : 0 ≤ w.dependability

/-- The sum of the weights. -/
def total (w : Weights ℚ) : ℚ :=
  w.functionality + w.resource + w.dependability

theorem standard_nonneg : (standard : Weights ℚ).Nonneg where
  functionality := by decide +kernel
  resource := by decide +kernel
  dependability := by decide +kernel

theorem standard_total : (standard : Weights ℚ).total = 1 := by
  decide +kernel

end Weights

namespace Curve

/-- The cubic that rises from zero at zero to one at one. -/
def cubic (t : ℚ) : ℚ :=
  t * t * (3 - 2 * t)

theorem cubic_nonneg {t : ℚ} (h : t ≤ 1) : 0 ≤ cubic t := by
  unfold cubic
  have hs : 0 ≤ t * t := mul_self_nonneg t
  exact mul_nonneg hs (by linarith)

theorem cubic_mono {t u : ℚ} (ht : 0 ≤ t) (htu : t ≤ u) (hu : u ≤ 1) : cubic t ≤ cubic u := by
  have hsq : u * u ≤ u := mul_le_of_le_one_left (ht.trans htu) hu
  have htsq : t * t ≤ t := mul_le_of_le_one_left ht (htu.trans hu)
  have hprod : 2 * (t * u) ≤ t + u := by nlinarith [sq_nonneg (u - t)]
  have hslope : 0 ≤ 3 * (u + t) - 2 * (u * u + t * u + t * t) := by linarith
  have hdiff : cubic u - cubic t = (u - t) * (3 * (u + t) - 2 * (u * u + t * u + t * t)) := by
    unfold cubic
    ring
  have := mul_nonneg (sub_nonneg.mpr htu) hslope
  linarith

theorem cubic_le_one {t : ℚ} (h₀ : 0 ≤ t) (h₁ : t ≤ 1) : cubic t ≤ 1 := by
  have h := cubic_mono h₀ h₁ le_rfl
  have h1 : cubic 1 = 1 := by norm_num [cubic]
  linarith

section Smoothstep

variable {x y a b : ℚ}

/-- The step is the cubic of the position in the range, cut to the range. -/
theorem smoothstep_eq (hab : a < b) (x : ℚ) :
    smoothstep x a b = cubic (Scalar.clamp ((x - a) / (b - a))) := by
  have hpos : 0 < b - a := sub_pos.mpr hab
  rw [Scalar.clamp_eq]
  unfold smoothstep
  split
  · rename_i h
    have hq : (x - a) / (b - a) ≤ 0 := div_nonpos_of_nonpos_of_nonneg (by linarith) hpos.le
    rw [min_eq_right (hq.trans zero_le_one), max_eq_left hq]
    norm_num [cubic]
  · rename_i ha
    rw [not_le] at ha
    split
    · rename_i h
      have hq : 1 ≤ (x - a) / (b - a) := (one_le_div hpos).mpr (by linarith)
      rw [min_eq_left hq, max_eq_right zero_le_one]
      norm_num [cubic]
    · rename_i hb
      rw [not_le] at hb
      have hq₀ : 0 ≤ (x - a) / (b - a) := div_nonneg (by linarith) hpos.le
      have hq₁ : (x - a) / (b - a) ≤ 1 := (div_le_one hpos).mpr (by linarith)
      rw [min_eq_right hq₁, max_eq_right hq₀]
      norm_num [cubic]

theorem smoothstep_nonneg (hab : a < b) (x : ℚ) : 0 ≤ smoothstep x a b := by
  rw [smoothstep_eq hab]
  exact cubic_nonneg (Scalar.clamp_le_one _)

theorem smoothstep_le_one (hab : a < b) (x : ℚ) : smoothstep x a b ≤ 1 := by
  rw [smoothstep_eq hab]
  exact cubic_le_one (Scalar.clamp_nonneg _) (Scalar.clamp_le_one _)

theorem smoothstep_mono (hab : a < b) (hxy : x ≤ y) : smoothstep x a b ≤ smoothstep y a b := by
  rw [smoothstep_eq hab, smoothstep_eq hab]
  have hpos : 0 < b - a := sub_pos.mpr hab
  have hq : (x - a) / (b - a) ≤ (y - a) / (b - a) :=
    div_le_div_of_nonneg_right (by linarith) hpos.le
  exact cubic_mono (Scalar.clamp_nonneg _) (Scalar.clamp_mono hq) (Scalar.clamp_le_one _)

theorem smoothstep_of_le (h : x ≤ a) : smoothstep x a b = 0 := by
  unfold smoothstep
  rw [if_pos h]
  norm_num

theorem smoothstep_of_ge (hab : a < b) (h : b ≤ x) : smoothstep x a b = 1 := by
  unfold smoothstep
  rw [if_neg (not_le.mpr (hab.trans_le h)), if_pos h]
  norm_num

end Smoothstep

end Curve

namespace Blend

variable (w : Weights ℚ) (d : Dimensions ℚ)

/-! ## The terms -/

theorem linear_eq : (ofDimensions w d).linear =
    10 * (w.functionality * (ofDimensions w d).functionality + w.resource * (ofDimensions w d).resource
      + w.dependability * (ofDimensions w d).dependability) := by
  simp only [ofDimensions]
  norm_num

theorem alpha_eq : (ofDimensions w d).alpha =
    (ofDimensions w d).step * (1 / 2 + 1 / 2 * (ofDimensions w d).rho) := by
  simp only [ofDimensions]
  norm_num

theorem rho_eq : (ofDimensions w d).rho = (ofDimensions w d).dependability /
    ((ofDimensions w d).functionality + (ofDimensions w d).resource + (ofDimensions w d).dependability
      + 1 / 1000000) := by
  simp only [ofDimensions]
  norm_num

theorem step_eq : (ofDimensions w d).step =
    Curve.smoothstep (ofDimensions w d).dependability (2 / 5) (7 / 10) := by
  simp only [ofDimensions]
  norm_num

/-! ## Dimensions, mean and shares -/

theorem functionality_nonneg : 0 ≤ (ofDimensions w d).functionality := Scalar.clamp_nonneg _

theorem functionality_le_one : (ofDimensions w d).functionality ≤ 1 := Scalar.clamp_le_one _

theorem resource_nonneg : 0 ≤ (ofDimensions w d).resource := Scalar.clamp_nonneg _

theorem resource_le_one : (ofDimensions w d).resource ≤ 1 := Scalar.clamp_le_one _

theorem dependability_nonneg : 0 ≤ (ofDimensions w d).dependability := Scalar.clamp_nonneg _

theorem dependability_le_one : (ofDimensions w d).dependability ≤ 1 := Scalar.clamp_le_one _

/-- The small term keeps the sum of the dimensions above zero. -/
theorem sum_pos : 0 < (ofDimensions w d).functionality + (ofDimensions w d).resource
    + (ofDimensions w d).dependability + 1 / 1000000 := by
  have hf := functionality_nonneg w d
  have hr := resource_nonneg w d
  have hs := dependability_nonneg w d
  positivity

theorem rho_nonneg : 0 ≤ (ofDimensions w d).rho := by
  rw [rho_eq]
  exact div_nonneg (dependability_nonneg w d) (sum_pos w d).le

theorem rho_lt_one : (ofDimensions w d).rho < 1 := by
  have hf := functionality_nonneg w d
  have hr := resource_nonneg w d
  rw [rho_eq, div_lt_one (sum_pos w d)]
  linarith

theorem step_nonneg : 0 ≤ (ofDimensions w d).step := by
  rw [step_eq]
  exact Curve.smoothstep_nonneg (by norm_num) _

theorem step_le_one : (ofDimensions w d).step ≤ 1 := by
  rw [step_eq]
  exact Curve.smoothstep_le_one (by norm_num) _

theorem alpha_nonneg : 0 ≤ (ofDimensions w d).alpha := by
  have hs := step_nonneg w d
  have hr := rho_nonneg w d
  rw [alpha_eq]
  positivity

/-- The linear blend always counts, if only a little. -/
theorem alpha_lt_one : (ofDimensions w d).alpha < 1 := by
  have hr := rho_nonneg w d
  calc (ofDimensions w d).alpha
      = (ofDimensions w d).step * (1 / 2 + 1 / 2 * (ofDimensions w d).rho) := alpha_eq w d
    _ ≤ 1 * (1 / 2 + 1 / 2 * (ofDimensions w d).rho) :=
        mul_le_mul_of_nonneg_right (step_le_one w d) (by positivity)
    _ < 1 := by linarith [rho_lt_one w d]

variable {w}

/-- The mean times the sum of its weights is the weighted sum. -/
theorem mean_mul (hw : w.Nonneg) : (w.functionality + w.resource) * (ofDimensions w d).mean =
    w.functionality * (ofDimensions w d).functionality + w.resource * (ofDimensions w d).resource := by
  have hf := hw.functionality
  have hr := hw.resource
  simp only [ofDimensions]
  split
  · rename_i h
    have hne : w.functionality + w.resource ≠ 0 := by
      norm_num at h
      exact h.ne'
    field_simp
  · rename_i h
    norm_num at h
    have hf0 : w.functionality = 0 := by linarith
    have hr0 : w.resource = 0 := by linarith
    rw [hf0, hr0]
    norm_num

theorem mean_nonneg (hw : w.Nonneg) : 0 ≤ (ofDimensions w d).mean := by
  have hf := hw.functionality
  have hr := hw.resource
  have hF : 0 ≤ Scalar.clamp d.functionality := Scalar.clamp_nonneg _
  have hR : 0 ≤ Scalar.clamp d.resource := Scalar.clamp_nonneg _
  simp only [ofDimensions]
  split
  · positivity
  · norm_num

theorem mean_eq_zero (h : ¬ 0 < w.functionality + w.resource) : (ofDimensions w d).mean = 0 := by
  simp only [ofDimensions]
  rw [if_neg (by norm_num at h ⊢; exact h)]
  norm_num

theorem mean_le_one (hw : w.Nonneg) : (ofDimensions w d).mean ≤ 1 := by
  have hf := hw.functionality
  have hr := hw.resource
  by_cases h : 0 < w.functionality + w.resource
  · have hF := mul_le_of_le_one_right hf (functionality_le_one w d)
    have hR := mul_le_of_le_one_right hr (resource_le_one w d)
    have hm := mean_mul d hw
    refine le_of_mul_le_mul_left ?_ h
    linarith
  · rw [mean_eq_zero d h]
    exact zero_le_one

/-! ## The two blends -/

theorem linear_nonneg (hw : w.Nonneg) : 0 ≤ (ofDimensions w d).linear := by
  have hf := mul_nonneg hw.functionality (functionality_nonneg w d)
  have hr := mul_nonneg hw.resource (resource_nonneg w d)
  have hs := mul_nonneg hw.dependability (dependability_nonneg w d)
  rw [linear_eq]
  positivity

/-- The anchored blend is ten times what is not left over by dependability and by the mean of the others. -/
theorem anchored_eq (hw : w.Nonneg) : (ofDimensions w d).anchored =
    10 * (1 - (1 - (ofDimensions w d).dependability) * (1 - (ofDimensions w d).mean)) := by
  have hrest := mul_nonneg (sub_nonneg.mpr (dependability_le_one w d)) (sub_nonneg.mpr (mean_le_one d hw))
  have hcut : (ofDimensions w d).anchored = min 10 (10 * ((ofDimensions w d).dependability
      + (1 - (ofDimensions w d).dependability) * (ofDimensions w d).mean)) := by
    simp only [ofDimensions, Scalar.smaller_eq_min]
    norm_num
  rw [hcut, min_eq_right (by linarith)]
  ring

theorem anchored_nonneg (hw : w.Nonneg) : 0 ≤ (ofDimensions w d).anchored := by
  have hs := mul_nonneg (dependability_nonneg w d) (sub_nonneg.mpr (mean_le_one d hw))
  have hm := mean_nonneg d hw
  rw [anchored_eq d hw]
  linarith

theorem anchored_le_ten (hw : w.Nonneg) : (ofDimensions w d).anchored ≤ 10 := by
  have hrest := mul_nonneg (sub_nonneg.mpr (dependability_le_one w d)) (sub_nonneg.mpr (mean_le_one d hw))
  rw [anchored_eq d hw]
  linarith

/-- Weights of at most one in total keep the linear blend below the anchored one. -/
theorem linear_le_anchored (hw : w.Nonneg) (hsum : w.total ≤ 1) :
    (ofDimensions w d).linear ≤ (ofDimensions w d).anchored := by
  have hm := mean_mul d hw
  have hm₀ := mean_nonneg d hw
  have hm₁ := mean_le_one d hw
  have hs₀ := dependability_nonneg w d
  have hs₁ := dependability_le_one w d
  have hf := hw.functionality
  have hr := hw.resource
  rw [linear_eq, anchored_eq d hw]
  unfold Weights.total at hsum
  -- the weight that is not on functionality and resource bounds the weight on dependability
  have hd : w.dependability * (ofDimensions w d).dependability ≤
      (1 - (w.functionality + w.resource)) * (ofDimensions w d).dependability :=
    mul_le_mul_of_nonneg_right (by linarith) hs₀
  generalize (ofDimensions w d).dependability = s at *
  generalize (ofDimensions w d).mean = m at *
  have hS₀ : 0 ≤ w.functionality + w.resource := add_nonneg hf hr
  have hS₁ : w.functionality + w.resource ≤ 1 := by linarith [hw.dependability]
  generalize w.functionality + w.resource = S at *
  have key : S * m + (1 - S) * s ≤ 1 - (1 - s) * (1 - m) := by
    have h₁ := mul_nonneg (mul_nonneg hS₀ hs₀) (sub_nonneg.mpr hm₁)
    have h₂ := mul_nonneg (mul_nonneg (sub_nonneg.mpr hS₁) hm₀) (sub_nonneg.mpr hs₁)
    linarith
  linarith

/-- Up to a dependability of 0.4 only the linear blend counts. -/
theorem alpha_of_low (h : (ofDimensions w d).dependability ≤ 2 / 5) : (ofDimensions w d).alpha = 0 := by
  rw [alpha_eq, step_eq, Curve.smoothstep_of_le h, zero_mul]

/-- From a dependability of 0.7 on the anchored blend counts at least as much as the linear one. -/
theorem half_le_alpha (h : 7 / 10 ≤ (ofDimensions w d).dependability) : 1 / 2 ≤ (ofDimensions w d).alpha := by
  have hr := rho_nonneg w d
  rw [alpha_eq, step_eq, Curve.smoothstep_of_ge (by norm_num) h]
  linarith

/-- The two blends mixed, before the cut at ten. -/
def mixed (b : Blend ℚ) : ℚ :=
  (1 - b.alpha) * b.linear + b.alpha * b.anchored

/-- The mixture, counted from the linear blend. -/
theorem mixed_eq_linear_add (b : Blend ℚ) : b.mixed = b.linear + b.alpha * (b.anchored - b.linear) := by
  unfold mixed
  ring

theorem mixed_nonneg (hw : w.Nonneg) : 0 ≤ (ofDimensions w d).mixed := by
  have hl := mul_nonneg (sub_nonneg.mpr (alpha_lt_one w d).le) (linear_nonneg d hw)
  have ha := mul_nonneg (alpha_nonneg w d) (anchored_nonneg d hw)
  exact add_nonneg hl ha

theorem mixed_le_anchored (hw : w.Nonneg) (hsum : w.total ≤ 1) :
    (ofDimensions w d).mixed ≤ (ofDimensions w d).anchored := by
  have hgap := sub_nonneg.mpr (linear_le_anchored d hw hsum)
  have := mul_le_of_le_one_left hgap (alpha_lt_one w d).le
  rw [mixed_eq_linear_add]
  linarith

end Blend

/-! ## The score -/

namespace Score

variable (w : Weights ℚ) (d : Dimensions ℚ)

theorem score_eq : (ofDimensions w d).score = min 10 (ofDimensions w d).blend.mixed := by
  simp only [ofDimensions, Scalar.smaller_eq_min, Blend.mixed]
  norm_num

variable {w}

theorem score_nonneg (hw : w.Nonneg) : 0 ≤ (ofDimensions w d).score := by
  rw [score_eq]
  exact le_min (by norm_num) (Blend.mixed_nonneg d hw)

theorem score_le_ten : (ofDimensions w d).score ≤ 10 := by
  rw [score_eq]
  exact min_le_left 10 _

/-- Weights of at most one in total make the cut at ten do nothing. -/
theorem score_eq_mixed (hw : w.Nonneg) (hsum : w.total ≤ 1) :
    (ofDimensions w d).score = (ofDimensions w d).blend.mixed := by
  rw [score_eq]
  exact min_eq_right ((Blend.mixed_le_anchored d hw hsum).trans (Blend.anchored_le_ten d hw))

theorem linear_le_score (hw : w.Nonneg) (hsum : w.total ≤ 1) :
    (ofDimensions w d).blend.linear ≤ (ofDimensions w d).score := by
  have hgap := sub_nonneg.mpr (Blend.linear_le_anchored d hw hsum)
  rw [score_eq_mixed d hw hsum, Blend.mixed_eq_linear_add]
  exact le_add_of_nonneg_right (mul_nonneg (Blend.alpha_nonneg w d) hgap)

theorem score_of_low (hw : w.Nonneg) (hsum : w.total ≤ 1)
    (h : (ofDimensions w d).blend.dependability ≤ 2 / 5) :
    (ofDimensions w d).score = (ofDimensions w d).blend.linear := by
  have hα : (ofDimensions w d).blend.alpha = 0 := Blend.alpha_of_low d h
  rw [score_eq_mixed d hw hsum, Blend.mixed_eq_linear_add, hα, zero_mul, add_zero]

theorem midpoint_le_score (hw : w.Nonneg) (hsum : w.total ≤ 1)
    (h : 7 / 10 ≤ (ofDimensions w d).blend.dependability) :
    ((ofDimensions w d).blend.linear + (ofDimensions w d).blend.anchored) / 2 ≤ (ofDimensions w d).score := by
  have hgap := sub_nonneg.mpr (Blend.linear_le_anchored d hw hsum)
  have hα := mul_le_mul_of_nonneg_right (Blend.half_le_alpha d h) hgap
  rw [score_eq_mixed d hw hsum, Blend.mixed_eq_linear_add]
  change ((Blend.ofDimensions w d).linear + (Blend.ofDimensions w d).anchored) / 2 ≤
    (Blend.ofDimensions w d).linear + (Blend.ofDimensions w d).alpha *
      ((Blend.ofDimensions w d).anchored - (Blend.ofDimensions w d).linear)
  linarith

/-- Where a score and its terms lie. Whatever the weights, the anchored blend and the score are between zero and
ten, and the linear blend always counts. Weights of at most one in total put the score between its two blends: it
is the linear one up to a dependability of 0.4, and from 0.7 on it is at least half way to the anchored one. -/
theorem score_bracket (w : Weights ℚ) (hw : w.Nonneg) (d : Dimensions ℚ) :
    (0 ≤ (ofDimensions w d).blend.alpha ∧ (ofDimensions w d).blend.alpha < 1) ∧
    (0 ≤ (ofDimensions w d).blend.anchored ∧ (ofDimensions w d).blend.anchored ≤ 10) ∧
    (0 ≤ (ofDimensions w d).score ∧ (ofDimensions w d).score ≤ 10) ∧
    (w.total ≤ 1 →
      ((ofDimensions w d).blend.linear ≤ (ofDimensions w d).score ∧
        (ofDimensions w d).score ≤ (ofDimensions w d).blend.anchored) ∧
      (Scalar.clamp d.dependability ≤ 0.4 → (ofDimensions w d).score = (ofDimensions w d).blend.linear) ∧
      (0.7 ≤ Scalar.clamp d.dependability →
        ((ofDimensions w d).blend.linear + (ofDimensions w d).blend.anchored) / 2
          ≤ (ofDimensions w d).score)) := by
  refine ⟨⟨Blend.alpha_nonneg w d, Blend.alpha_lt_one w d⟩,
    ⟨Blend.anchored_nonneg d hw, Blend.anchored_le_ten d hw⟩,
    ⟨score_nonneg d hw, score_le_ten d⟩, fun hsum => ⟨⟨linear_le_score d hw hsum, ?_⟩, fun h => ?_, fun h => ?_⟩⟩
  · rw [score_eq_mixed d hw hsum]
    exact Blend.mixed_le_anchored d hw hsum
  · norm_num at h
    exact score_of_low d hw hsum h
  · norm_num at h
    exact midpoint_le_score d hw hsum h

/-- A severe vulnerability under the standard weights: the score of 9.002 is well above the midpoint of its two
blends. -/
theorem score_bracket_severe :
    (Weights.standard : Weights ℚ).Nonneg ∧ (Weights.standard : Weights ℚ).total ≤ 1 ∧
    0.7 ≤ Scalar.clamp (0.95 : ℚ) ∧
    ((ofDimensions (Weights.standard : Weights ℚ) ⟨0.9, 0.1, 0.95⟩).blend.linear
        + (ofDimensions (Weights.standard : Weights ℚ) ⟨0.9, 0.1, 0.95⟩).blend.anchored) / 2
      ≤ (ofDimensions (Weights.standard : Weights ℚ) ⟨0.9, 0.1, 0.95⟩).score := by
  have hsum : (Weights.standard : Weights ℚ).total ≤ 1 := Weights.standard_total.le
  have hd : 0.7 ≤ Scalar.clamp (0.95 : ℚ) := by decide +kernel
  exact ⟨Weights.standard_nonneg, hsum, hd,
    ((score_bracket Weights.standard Weights.standard_nonneg ⟨0.9, 0.1, 0.95⟩).2.2.2 hsum).2.2 hd⟩

end Score

end RiskGauge
