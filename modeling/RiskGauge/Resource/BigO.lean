import RiskGauge.Scalar

/-!
# Classes of running time
-/

namespace RiskGauge

/-- An estimate of how the running time of a source grows. -/
inductive BigO where
  | constant
  | logarithmic
  | linear
  | linearithmic
  | quadratic
  | cubic
  | unknown
deriving DecidableEq, Repr

namespace BigO

/-- The name of the class. -/
def name : BigO → String
  | constant => "O(1)"
  | logarithmic => "O(log n)"
  | linear => "O(n)"
  | linearithmic => "O(n log n)"
  | quadratic => "O(n^2)"
  | cubic => "O(n^3)"
  | unknown => "unknown"

/-- All classes. -/
def classes : List BigO :=
  [constant, logarithmic, linear, linearithmic, quadratic, cubic, unknown]

/-- The class of a name. -/
def ofName? (s : String) : Option BigO :=
  classes.find? (·.name = s)

/-- How much a class weighs, from zero to one. -/
def severity {α : Type} [Scalar α] : BigO → α
  | constant => 0.05
  | logarithmic => 0.15
  | linear => 0.20
  | linearithmic => 0.35
  | quadratic => 0.70
  | cubic => 0.90
  | unknown => 0.50

/-- The class for a depth of loops and for hints at sorting, divided work and recursion. -/
def classify (loopDepth : Int) (sorts divides recursive : Bool) : BigO :=
  if 3 ≤ loopDepth then cubic
  else if loopDepth = 2 then quadratic
  else if sorts || divides then linearithmic
  else if loopDepth = 1 || recursive then linear
  else unknown

end BigO

end RiskGauge
