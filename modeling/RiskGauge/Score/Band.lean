import RiskGauge.Scalar

/-!
# Bands of risk
-/

namespace RiskGauge

/-- A band of risk. -/
inductive Band where
  | green
  | yellow
  | orange
  | red
deriving DecidableEq, Repr

namespace Band

/-- The colour of the band. -/
def name : Band → String
  | green => "green"
  | yellow => "yellow"
  | orange => "orange"
  | red => "red"

/-- The level of the band. -/
def level : Band → String
  | green => "LOW"
  | yellow => "MEDIUM"
  | orange => "HIGH"
  | red => "CRITICAL"

/-- What to do about a source in the band. -/
def action : Band → String
  | green => "Quick scan sufficient"
  | yellow => "Standard review process"
  | orange => "Detailed review required"
  | red => "Comprehensive audit needed"

/-- The band of a score. -/
def ofScore {α : Type} [Scalar α] (score : α) : Band :=
  if 9.0 ≤ score then red
  else if 7.0 ≤ score then orange
  else if 4.0 ≤ score then yellow
  else green

end Band

end RiskGauge
