import RiskGauge.Proofs.Score.Blend

/-!
# How the score moves with the dimensions

Raising a dimension raises both blends, but it also moves the share `alpha` in which they are mixed. What the
mixture gains from the blends is `Blend.gain`, what it loses by the shift of the share is `Blend.loss`:

* `score_le_iff`: the score does not fall exactly if it ends at ten or the loss is at most the gain;
* `score_mono_dependability`: raising dependability alone loses nothing under weights of at most one in total;
* `score_le_iff_loss_le_gain`: raising all dimensions can lose, and of the weights of at most one in total only
  those that look at dependability alone, with the weight one, keep the order of all scores.
-/

namespace RiskGauge

namespace Dimensions

/-- Every dimension is between zero and one. -/
structure InUnit (d : Dimensions ℚ) : Prop where
  functionality : 0 ≤ d.functionality ∧ d.functionality ≤ 1
  resource : 0 ≤ d.resource ∧ d.resource ≤ 1
  dependability : 0 ≤ d.dependability ∧ d.dependability ≤ 1

/-- Every dimension is at most that of the other. -/
structure AtMost (d e : Dimensions ℚ) : Prop where
  functionality : d.functionality ≤ e.functionality
  resource : d.resource ≤ e.resource
  dependability : d.dependability ≤ e.dependability

end Dimensions

namespace Blend

/-! ## Gain and loss -/

/-- What a mixture gains if its two blends become those of another, in the share that it has. -/
def gain (b c : Blend ℚ) : ℚ :=
  (1 - b.alpha) * (c.linear - b.linear) + b.alpha * (c.anchored - b.anchored)

/-- What a mixture then loses if its share becomes that of the other. -/
def loss (b c : Blend ℚ) : ℚ :=
  (b.alpha - c.alpha) * (c.anchored - c.linear)

theorem mixed_sub (b c : Blend ℚ) : c.mixed - b.mixed = b.gain c - b.loss c := by
  unfold mixed gain loss
  ring

variable {w : Weights ℚ} {d e : Dimensions ℚ}

theorem linear_mono (hw : w.Nonneg) (h : d.AtMost e) :
    (ofDimensions w d).linear ≤ (ofDimensions w e).linear := by
  have hf := mul_le_mul_of_nonneg_left (Scalar.clamp_mono h.functionality) hw.functionality
  have hr := mul_le_mul_of_nonneg_left (Scalar.clamp_mono h.resource) hw.resource
  have hs := mul_le_mul_of_nonneg_left (Scalar.clamp_mono h.dependability) hw.dependability
  rw [linear_eq, linear_eq]
  exact mul_le_mul_of_nonneg_left (add_le_add (add_le_add hf hr) hs) (by norm_num)

theorem mean_mono (hw : w.Nonneg) (h : d.AtMost e) :
    (ofDimensions w d).mean ≤ (ofDimensions w e).mean := by
  by_cases hsum : 0 < w.functionality + w.resource
  · have hf := mul_le_mul_of_nonneg_left (Scalar.clamp_mono h.functionality) hw.functionality
    have hr := mul_le_mul_of_nonneg_left (Scalar.clamp_mono h.resource) hw.resource
    refine le_of_mul_le_mul_left ?_ hsum
    rw [mean_mul d hw, mean_mul e hw]
    exact add_le_add hf hr
  · rw [mean_eq_zero d hsum, mean_eq_zero e hsum]

theorem anchored_mono (hw : w.Nonneg) (h : d.AtMost e) :
    (ofDimensions w d).anchored ≤ (ofDimensions w e).anchored := by
  have hs : (ofDimensions w d).dependability ≤ (ofDimensions w e).dependability :=
    Scalar.clamp_mono h.dependability
  have hm := mean_mono hw h
  have hrest : (1 - (ofDimensions w e).dependability) * (1 - (ofDimensions w e).mean) ≤
      (1 - (ofDimensions w d).dependability) * (1 - (ofDimensions w d).mean) :=
    mul_le_mul (by linarith) (by linarith) (sub_nonneg.mpr (mean_le_one e hw))
      (sub_nonneg.mpr (dependability_le_one w d))
  rw [anchored_eq d hw, anchored_eq e hw]
  linarith

theorem gain_nonneg (hw : w.Nonneg) (h : d.AtMost e) :
    0 ≤ (ofDimensions w d).gain (ofDimensions w e) := by
  have hl := mul_nonneg (sub_nonneg.mpr (alpha_lt_one w d).le) (sub_nonneg.mpr (linear_mono hw h))
  have ha := mul_nonneg (alpha_nonneg w d) (sub_nonneg.mpr (anchored_mono hw h))
  exact add_nonneg hl ha

/-! ## The share, if only dependability is raised -/

variable {f r s t : ℚ}

theorem rho_mono_dependability (w : Weights ℚ) (h : s ≤ t) :
    (ofDimensions w ⟨f, r, s⟩).rho ≤ (ofDimensions w ⟨f, r, t⟩).rho := by
  have hst : (ofDimensions w ⟨f, r, s⟩).dependability ≤ (ofDimensions w ⟨f, r, t⟩).dependability :=
    Scalar.clamp_mono h
  have hf := functionality_nonneg w ⟨f, r, s⟩
  have hr := resource_nonneg w ⟨f, r, s⟩
  have ef : (ofDimensions w ⟨f, r, t⟩).functionality = (ofDimensions w ⟨f, r, s⟩).functionality := rfl
  have er : (ofDimensions w ⟨f, r, t⟩).resource = (ofDimensions w ⟨f, r, s⟩).resource := rfl
  rw [rho_eq, rho_eq, div_le_div_iff₀ (sum_pos w _) (sum_pos w _), ef, er]
  have := mul_le_mul_of_nonneg_right hst (add_nonneg (add_nonneg hf hr) (by norm_num : (0 : ℚ) ≤ 1 / 1000000))
  linarith

theorem alpha_mono_dependability (w : Weights ℚ) (h : s ≤ t) :
    (ofDimensions w ⟨f, r, s⟩).alpha ≤ (ofDimensions w ⟨f, r, t⟩).alpha := by
  have hstep : (ofDimensions w ⟨f, r, s⟩).step ≤ (ofDimensions w ⟨f, r, t⟩).step := by
    rw [step_eq, step_eq]
    exact Curve.smoothstep_mono (by norm_num) (Scalar.clamp_mono h)
  have hrho := rho_mono_dependability (f := f) (r := r) w h
  have hr₀ := rho_nonneg w ⟨f, r, s⟩
  rw [alpha_eq, alpha_eq]
  exact mul_le_mul hstep (by linarith) (by positivity) (step_nonneg w _)

end Blend

namespace Score

/-- The score does not fall exactly if it ends at ten or what is lost is at most what is gained. -/
theorem score_le_iff (w : Weights ℚ) (d e : Dimensions ℚ) :
    (ofDimensions w d).score ≤ (ofDimensions w e).score ↔ (ofDimensions w e).score = 10 ∨
      (ofDimensions w d).blend.loss (ofDimensions w e).blend ≤
        (ofDimensions w d).blend.gain (ofDimensions w e).blend := by
  have hsub := Blend.mixed_sub (ofDimensions w d).blend (ofDimensions w e).blend
  have hmix : (ofDimensions w d).blend.loss (ofDimensions w e).blend ≤
      (ofDimensions w d).blend.gain (ofDimensions w e).blend ↔
      (ofDimensions w d).blend.mixed ≤ (ofDimensions w e).blend.mixed := by
    constructor <;> intro h <;> linarith
  rw [hmix, score_eq, score_eq]
  constructor
  · intro h
    rcases le_or_gt 10 (ofDimensions w e).blend.mixed with hten | hten
    · exact .inl (min_eq_left hten)
    · rw [min_eq_right hten.le] at h
      rcases min_le_iff.mp h with h | h
      · exact absurd h (not_le.mpr hten)
      · exact .inr h
  · rintro (h | h)
    · rw [h]
      exact min_le_left 10 _
    · exact min_le_min le_rfl h

variable {w : Weights ℚ} {d e : Dimensions ℚ}

/-- If the share does not shift to the lower blend, nothing is lost. -/
theorem score_mono_of_loss_nonpos (hw : w.Nonneg) (h : d.AtMost e)
    (hloss : (ofDimensions w d).blend.loss (ofDimensions w e).blend ≤ 0) :
    (ofDimensions w d).score ≤ (ofDimensions w e).score :=
  (score_le_iff w d e).mpr (.inr (hloss.trans (Blend.gain_nonneg hw h)))

/-- Raising dependability never lowers the score, under weights of at most one in total. -/
theorem score_mono_dependability (w : Weights ℚ) (hw : w.Nonneg) (hsum : w.total ≤ 1) (f r : ℚ) {s t : ℚ}
    (h : s ≤ t) : (ofDimensions w ⟨f, r, s⟩).score ≤ (ofDimensions w ⟨f, r, t⟩).score := by
  refine score_mono_of_loss_nonpos hw ⟨le_rfl, le_rfl, h⟩ ?_
  exact mul_nonpos_of_nonpos_of_nonneg (sub_nonpos.mpr (Blend.alpha_mono_dependability w h))
    (sub_nonneg.mpr (Blend.linear_le_anchored _ hw hsum))

/-- From the middle of the range of the step to beyond one, with weights on dependability alone. -/
theorem score_mono_dependability_alone :
    (⟨0, 0, 0.5⟩ : Weights ℚ).Nonneg ∧ (⟨0, 0, 0.5⟩ : Weights ℚ).total ≤ 1 ∧ (0.55 : ℚ) ≤ 1.5 ∧
    (ofDimensions (⟨0, 0, 0.5⟩ : Weights ℚ) ⟨0.3, -1, 0.55⟩).score ≤
      (ofDimensions (⟨0, 0, 0.5⟩ : Weights ℚ) ⟨0.3, -1, 1.5⟩).score := by
  have hw : (⟨0, 0, 0.5⟩ : Weights ℚ).Nonneg := ⟨by decide +kernel, by decide +kernel, by decide +kernel⟩
  have hsum : (⟨0, 0, 0.5⟩ : Weights ℚ).total ≤ 1 := by decide +kernel
  have h : (0.55 : ℚ) ≤ 1.5 := by decide +kernel
  exact ⟨hw, hsum, h, score_mono_dependability ⟨0, 0, 0.5⟩ hw hsum 0.3 (-1) h⟩

/-- Up to a dependability of 0.4 the share is zero, so nothing is lost. -/
theorem score_mono_of_low (hw : w.Nonneg) (h : d.AtMost e) (hlow : e.dependability ≤ 2 / 5) :
    (ofDimensions w d).score ≤ (ofDimensions w e).score := by
  have hclamp : ∀ x : ℚ, x ≤ 2 / 5 → Scalar.clamp x ≤ 2 / 5 := by
    intro x hx
    rw [Scalar.clamp_eq]
    exact max_le (by norm_num) ((min_le_right 1 x).trans hx)
  have hd : (ofDimensions w d).blend.alpha = 0 :=
    Blend.alpha_of_low d (hclamp _ (h.dependability.trans hlow))
  have he : (ofDimensions w e).blend.alpha = 0 := Blend.alpha_of_low e (hclamp _ hlow)
  refine score_mono_of_loss_nonpos hw h ?_
  unfold Blend.loss
  rw [hd, he, sub_zero, zero_mul]

end Score

/-! ## Weights that keep the order -/

/-- Raising dimensions never lowers the score under these weights. -/
def Weights.KeepsOrder (w : Weights ℚ) : Prop :=
  ∀ d e : Dimensions ℚ, d.InUnit → e.InUnit → d.AtMost e →
    (Score.ofDimensions w d).score ≤ (Score.ofDimensions w e).score

namespace Blend

variable {w : Weights ℚ} {f r : ℚ}

/-- With dependability at its worst the anchored blend is ten, and the share falls as the others are raised. -/
theorem mixed_of_worst (hw : w.Nonneg) (hf₀ : 0 ≤ f) (hf₁ : f ≤ 1) (hr₀ : 0 ≤ r) (hr₁ : r ≤ 1) :
    (ofDimensions w ⟨f, r, 1⟩).mixed = 10 - 5 * ((f + r + 1 / 1000000) / (f + r + 1 + 1 / 1000000))
      * (1 - (w.functionality * f + w.resource * r + w.dependability)) := by
  have ef : (ofDimensions w ⟨f, r, 1⟩).functionality = f := Scalar.clamp_of_mem hf₀ hf₁
  have er : (ofDimensions w ⟨f, r, 1⟩).resource = r := Scalar.clamp_of_mem hr₀ hr₁
  have es : (ofDimensions w ⟨f, r, 1⟩).dependability = 1 := Scalar.clamp_of_mem zero_le_one le_rfl
  have hstep : (ofDimensions w ⟨f, r, 1⟩).step = 1 := by
    rw [step_eq, es]
    exact Curve.smoothstep_of_ge (by norm_num) (by norm_num)
  have hpos : 0 < f + r + 1 + 1 / 1000000 := by positivity
  unfold mixed
  rw [alpha_eq, rho_eq, linear_eq, anchored_eq _ hw, hstep, ef, er, es]
  field_simp
  ring

end Blend

/-- If raising a dimension of the weight `k` never costs more share than it brings, the weight `a` of dependability
is one but for a millionth part of `k`. -/
theorem one_le_of_shift {a k : ℚ} (hk : 0 ≤ k)
    (h : ∀ t : ℚ, 0 < t → t ≤ 1 → (t + 1 / 1000000) / (t + 1 + 1 / 1000000) * (1 - (k * t + a)) ≤
      (1 / 1000000) / (1 + 1 / 1000000) * (1 - a)) :
    1 ≤ a + (1 + 1 / 1000000) * (1 / 1000000) * k := by
  by_contra hlt
  rw [not_le] at hlt
  -- the step from zero to `t` is small against what is missing
  obtain ⟨t, ht₀, ht₁, hsmall⟩ : ∃ t : ℚ, 0 < t ∧ t ≤ 1 ∧
      (1 + 1 / 1000000) * k * t < 1 - a - (1 + 1 / 1000000) * (1 / 1000000) * k := by
    generalize hg : 1 - a - (1 + 1 / 1000000) * (1 / 1000000) * k = g
    have hg₀ : 0 < g := by linarith
    refine ⟨min 1 (g / (2 * (k + 1))), lt_min one_pos (by positivity), min_le_left _ _, ?_⟩
    have hstep : (k + 1) * min 1 (g / (2 * (k + 1))) ≤ g / 2 := by
      calc (k + 1) * min 1 (g / (2 * (k + 1)))
          ≤ (k + 1) * (g / (2 * (k + 1))) := mul_le_mul_of_nonneg_left (min_le_right _ _) (by linarith)
        _ = g / 2 := by field_simp
    have ht₀ : 0 < min 1 (g / (2 * (k + 1))) := lt_min one_pos (by positivity)
    generalize min 1 (g / (2 * (k + 1))) = t at *
    have := mul_nonneg hk ht₀.le
    linarith
  have hcross := h t ht₀ ht₁
  rw [div_mul_eq_mul_div, div_mul_eq_mul_div, div_le_div_iff₀ (by positivity) (by positivity)] at hcross
  have hneg : t * (1 - a - (1 + 1 / 1000000) * (1 / 1000000) * k - (1 + 1 / 1000000) * k * t) ≤ 0 := by
    linarith
  have hpos := mul_pos ht₀ (sub_pos.mpr hsmall)
  linarith

namespace Weights

variable {w : Weights ℚ}

/-- With dependability at its worst, weights that keep the order make up for what the share loses. -/
theorem KeepsOrder.loss_le (h : w.KeepsOrder) (hw : w.Nonneg) (hd : w.dependability < 1) {f r : ℚ}
    (hf₀ : 0 ≤ f) (hf₁ : f ≤ 1) (hr₀ : 0 ≤ r) (hr₁ : r ≤ 1) :
    (f + r + 1 / 1000000) / (f + r + 1 + 1 / 1000000)
        * (1 - (w.functionality * f + w.resource * r + w.dependability)) ≤
      (1 / 1000000) / (1 + 1 / 1000000) * (1 - w.dependability) := by
  have hle := h ⟨0, 0, 1⟩ ⟨f, r, 1⟩ ⟨⟨le_rfl, zero_le_one⟩, ⟨le_rfl, zero_le_one⟩, ⟨zero_le_one, le_rfl⟩⟩
    ⟨⟨hf₀, hf₁⟩, ⟨hr₀, hr₁⟩, ⟨zero_le_one, le_rfl⟩⟩ ⟨hf₀, hr₀, le_rfl⟩
  have hstart : (Blend.ofDimensions w ⟨0, 0, 1⟩).mixed =
      10 - 5 * ((1 / 1000000) / (1 + 1 / 1000000)) * (1 - w.dependability) := by
    rw [Blend.mixed_of_worst hw le_rfl zero_le_one le_rfl zero_le_one]
    simp only [mul_zero, zero_add]
  have hbelow : (Blend.ofDimensions w ⟨0, 0, 1⟩).mixed ≤ 10 := by
    have : 0 ≤ 5 * ((1 / 1000000) / (1 + 1 / 1000000)) * (1 - w.dependability) :=
      mul_nonneg (by norm_num) (by linarith)
    linarith
  have hmixed : (Blend.ofDimensions w ⟨0, 0, 1⟩).mixed ≤ (Blend.ofDimensions w ⟨f, r, 1⟩).mixed := by
    calc (Blend.ofDimensions w ⟨0, 0, 1⟩).mixed
        = (Score.ofDimensions w ⟨0, 0, 1⟩).score := by rw [Score.score_eq]; exact (min_eq_right hbelow).symm
      _ ≤ (Score.ofDimensions w ⟨f, r, 1⟩).score := hle
      _ ≤ (Blend.ofDimensions w ⟨f, r, 1⟩).mixed := by rw [Score.score_eq]; exact min_le_right 10 _
  rw [hstart, Blend.mixed_of_worst hw hf₀ hf₁ hr₀ hr₁] at hmixed
  linarith

/-- Weights that keep the order put a weight of one on dependability, but for a millionth part of each of the
others. -/
theorem KeepsOrder.one_le (h : w.KeepsOrder) (hw : w.Nonneg) :
    1 ≤ w.dependability + (1 + 1 / 1000000) * (1 / 1000000) * w.functionality ∧
    1 ≤ w.dependability + (1 + 1 / 1000000) * (1 / 1000000) * w.resource := by
  rcases lt_or_ge w.dependability 1 with hd | hd
  · refine ⟨one_le_of_shift hw.functionality fun t ht₀ ht₁ => ?_, one_le_of_shift hw.resource fun t ht₀ ht₁ => ?_⟩
    · have := h.loss_le hw hd ht₀.le ht₁ le_rfl zero_le_one
      simpa only [mul_zero, add_zero] using this
    · have := h.loss_le hw hd le_rfl zero_le_one ht₀.le ht₁
      simpa only [mul_zero, zero_add] using this
  · have hf := hw.functionality
    have hr := hw.resource
    exact ⟨by linarith, by linarith⟩

/-- With all the weight on dependability, both blends are ten times dependability. -/
theorem keepsOrder_alone : (⟨0, 0, 1⟩ : Weights ℚ).KeepsOrder := by
  have hw : (⟨0, 0, 1⟩ : Weights ℚ).Nonneg := ⟨le_rfl, le_rfl, zero_le_one⟩
  have hsame : ∀ d : Dimensions ℚ, (Blend.ofDimensions ⟨0, 0, 1⟩ d).linear =
      (Blend.ofDimensions ⟨0, 0, 1⟩ d).anchored := by
    intro d
    rw [Blend.linear_eq, Blend.anchored_eq d hw, Blend.mean_eq_zero d (by norm_num)]
    ring
  intro d e _ _ h
  refine Score.score_mono_of_loss_nonpos hw h (le_of_eq ?_)
  change ((Blend.ofDimensions ⟨0, 0, 1⟩ d).alpha - (Blend.ofDimensions ⟨0, 0, 1⟩ e).alpha) *
    ((Blend.ofDimensions ⟨0, 0, 1⟩ e).anchored - (Blend.ofDimensions ⟨0, 0, 1⟩ e).linear) = 0
  rw [hsame e, sub_self, mul_zero]

/-- Of the weights of at most one in total, only those on dependability alone keep the order. -/
theorem keepsOrder_iff (hw : w.Nonneg) (hsum : w.total ≤ 1) :
    w.KeepsOrder ↔ w.functionality = 0 ∧ w.resource = 0 ∧ w.dependability = 1 := by
  have hf := hw.functionality
  have hr := hw.resource
  unfold total at hsum
  constructor
  · intro h
    obtain ⟨hF, -⟩ := h.one_le hw
    have hf0 : w.functionality = 0 := by linarith
    have hr0 : w.resource = 0 := by linarith
    rw [hf0] at hF
    exact ⟨hf0, hr0, by linarith⟩
  · rintro ⟨hf0, hr0, hd1⟩
    rcases w with ⟨f, r, s⟩
    simp only at hf0 hr0 hd1
    rw [hf0, hr0, hd1]
    exact keepsOrder_alone

end Weights

namespace Score

/-- When raising dimensions does not lower the score. The score falls exactly if it stays below ten and what the
mixture loses by the shift of its share is more than what the two blends gain. This cannot happen up to a
dependability of 0.4; but of the weights of at most one in total, those that are not on dependability alone make it
happen somewhere. -/
theorem score_le_iff_loss_le_gain (w : Weights ℚ) (hw : w.Nonneg) :
    (∀ d e : Dimensions ℚ, d.AtMost e →
      0 ≤ (ofDimensions w d).blend.gain (ofDimensions w e).blend ∧
      ((ofDimensions w d).score ≤ (ofDimensions w e).score ↔ (ofDimensions w e).score = 10 ∨
        (ofDimensions w d).blend.loss (ofDimensions w e).blend ≤
          (ofDimensions w d).blend.gain (ofDimensions w e).blend)) ∧
    (∀ d e : Dimensions ℚ, d.AtMost e → e.dependability ≤ 0.4 →
      (ofDimensions w d).score ≤ (ofDimensions w e).score) ∧
    (w.total ≤ 1 → (w.KeepsOrder ↔ w.functionality = 0 ∧ w.resource = 0 ∧ w.dependability = 1)) := by
  refine ⟨fun d e h => ⟨Blend.gain_nonneg hw h, score_le_iff w d e⟩, fun d e h hlow => ?_,
    Weights.keepsOrder_iff hw⟩
  norm_num at hlow
  exact score_mono_of_low hw h hlow

/-- Under the standard weights, with dependability at its worst, raising the use of resources from nothing to 0.7
lowers the score, and its band from red to orange. -/
theorem score_falls_under_standard_weights :
    (Weights.standard : Weights ℚ).Nonneg ∧
    (⟨0, 0, 1⟩ : Dimensions ℚ).InUnit ∧ (⟨0, 0.7, 1⟩ : Dimensions ℚ).InUnit ∧
    (⟨0, 0, 1⟩ : Dimensions ℚ).AtMost ⟨0, 0.7, 1⟩ ∧
    ¬ (ofDimensions (Weights.standard : Weights ℚ) ⟨0, 0, 1⟩).score ≤
      (ofDimensions (Weights.standard : Weights ℚ) ⟨0, 0.7, 1⟩).score ∧
    (ofDimensions (Weights.standard : Weights ℚ) ⟨0, 0, 1⟩).band = .red ∧
    (ofDimensions (Weights.standard : Weights ℚ) ⟨0, 0.7, 1⟩).band = .orange := by
  have hle : (0 : ℚ) ≤ 0.7 ∧ (0.7 : ℚ) ≤ 1 := by decide +kernel
  refine ⟨Weights.standard_nonneg, ⟨⟨le_rfl, zero_le_one⟩, ⟨le_rfl, zero_le_one⟩, ⟨zero_le_one, le_rfl⟩⟩,
    ⟨⟨le_rfl, zero_le_one⟩, hle, ⟨zero_le_one, le_rfl⟩⟩, ⟨le_rfl, hle.1, le_rfl⟩, ?_⟩
  decide +kernel

/-- The loss and the gain of that fall. -/
theorem loss_exceeds_gain_under_standard_weights :
    (Weights.standard : Weights ℚ).Nonneg ∧ (⟨0, 0, 1⟩ : Dimensions ℚ).AtMost ⟨0, 0.7, 1⟩ ∧
    ¬ ((ofDimensions (Weights.standard : Weights ℚ) ⟨0, 0.7, 1⟩).score = 10 ∨
      (ofDimensions (Weights.standard : Weights ℚ) ⟨0, 0, 1⟩).blend.loss
          (ofDimensions (Weights.standard : Weights ℚ) ⟨0, 0.7, 1⟩).blend ≤
        (ofDimensions (Weights.standard : Weights ℚ) ⟨0, 0, 1⟩).blend.gain
          (ofDimensions (Weights.standard : Weights ℚ) ⟨0, 0.7, 1⟩).blend) ∧
    ¬ (Weights.standard : Weights ℚ).KeepsOrder := by
  have h : (⟨0, 0, 1⟩ : Dimensions ℚ).AtMost ⟨0, 0.7, 1⟩ := ⟨le_rfl, by decide +kernel, le_rfl⟩
  obtain ⟨hpair, -, hkeeps⟩ := score_le_iff_loss_le_gain Weights.standard Weights.standard_nonneg
  refine ⟨Weights.standard_nonneg, h, fun hexact => ?_, fun hk => ?_⟩
  · have hle := (hpair _ _ h).2.mpr hexact
    revert hle
    decide +kernel
  · have hzero := ((hkeeps Weights.standard_total.le).mp hk).1
    revert hzero
    decide +kernel

end Score

end RiskGauge
