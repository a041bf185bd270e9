import RiskGauge.Resource.Complexity
import RiskGauge.Resource.External
import RiskGauge.Resource.Memory

/-!
# Use of resources

Running time, memory and calls to the outside together.
-/

namespace RiskGauge.Resource

/-- What the look of a source says about its use of resources. -/
structure Signals where
  complexity : Complexity.Signals
  memory : Memory.Signals
  outside : External.Signals
deriving DecidableEq, Repr

/-- The reasons behind the signals. -/
def Signals.reasons (s : Signals) : List String :=
  s.complexity.reasons ++ s.memory.reasons ++ s.outside.reasons

/-- The signs of resource use in a source. -/
def scan (text : List Char) : Except Text.IntegerFault Signals := do
  let memory ← Memory.scan text
  return { complexity := Complexity.scan text, memory, outside := External.scan text }

end RiskGauge.Resource
