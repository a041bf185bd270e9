import RiskGauge.Scalar

/-!
# Curves

Functions that bring a quantity into the range from zero to one.
-/

namespace RiskGauge.Curve

variable {α : Type} [Scalar α]

/-- A curve that rises fast at first and comes closer and closer to one. -/
def saturate (curves : Curves α) (x k : α) : α :=
  Scalar.clamp (1.0 - curves.exp (-k * Scalar.greater 0.0 x))

/-- The curve of `saturate` for a whole number of any size. -/
def saturateInt (curves : Curves α) (n : Int) (k : α) : Except NumericError α := do
  let x ← if 0 < n then Scalar.ofInt? n else pure 0.0
  return saturate curves x k

/-- The curve of `saturate` on doubles, refused where the power is too large. -/
def saturateFloat (x k : Float) : Except NumericError Float :=
  let power := -k * Scalar.greater 0.0 x
  if power.exp.isInf && !power.isInf then .error .powerTooLarge else .ok (saturate Curves.float x k)

/-- A smooth step from zero at `a` to one at `b`. -/
def smoothstep (x a b : α) : α :=
  if x ≤ a then 0.0
  else if b ≤ x then 1.0
  else
    let t := (x - a) / (b - a)
    t * t * (3.0 - 2.0 * t)

end RiskGauge.Curve
