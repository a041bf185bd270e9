import RiskGauge.Score.Band
import RiskGauge.Score.Metrics
import RiskGauge.Score.Weights

/-!
# The score of a source

The three dimensions are blended into a score from zero to ten in two ways: `linear` weighs them, `anchored`
starts from dependability and fills up what is left to ten. The worse dependability is, and the more of the
whole it is, the more the anchored blend counts.
-/

namespace RiskGauge

/-- The terms of the blend. -/
structure Blend (α : Type) where
  linear : α
  anchored : α
  /-- How much the anchored blend counts. -/
  alpha : α
  /-- The share of dependability in the sum of the dimensions. -/
  rho : α
  /-- How far dependability is through the range in which the anchored blend takes over. -/
  step : α
  functionality : α
  resource : α
  dependability : α
  /-- The weighted mean of functionality and resource use. -/
  mean : α
deriving DecidableEq, Repr

/-- A score with the terms behind it. -/
structure Score (α : Type) where
  score : α
  weights : Weights α
  blend : Blend α
deriving DecidableEq, Repr

variable {α : Type} [Scalar α]

/-- The terms of the blend of three dimensions. -/
def Blend.ofDimensions (w : Weights α) (d : Dimensions α) : Blend α :=
  let f := Scalar.clamp d.functionality
  let r := Scalar.clamp d.resource
  let s := Scalar.clamp d.dependability
  let linear := 10.0 * (w.functionality * f + w.resource * r + w.dependability * s)
  let sum := w.functionality + w.resource
  let mean := if 0.0 < sum then w.functionality / sum * f + w.resource / sum * r else 0.0
  let anchored := Scalar.smaller 10.0 (10.0 * (s + (1.0 - s) * mean))
  let rho := s / (f + r + s + 1e-6)
  let step := Curve.smoothstep s 0.4 0.7
  { linear, anchored, alpha := step * (0.5 + 0.5 * rho), rho, step
    functionality := f, resource := r, dependability := s, mean }

namespace Score

/-- The score of three dimensions. -/
def ofDimensions (w : Weights α) (d : Dimensions α) : Score α :=
  let b := Blend.ofDimensions w d
  { score := Scalar.smaller 10.0 ((1.0 - b.alpha) * b.linear + b.alpha * b.anchored), weights := w, blend := b }

/-- The band of the score. -/
def band (s : Score α) : Band :=
  Band.ofScore s.score

end Score

end RiskGauge
