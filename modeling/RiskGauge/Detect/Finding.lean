import RiskGauge.Decimal.Write
import RiskGauge.Scalar

/-!
# Findings

A finding says how much a source looks like a vulnerability. The strongest findings are combined as if each
were an independent probability.
-/

namespace RiskGauge

/-- How much a source looks like a vulnerability. -/
structure Finding (α : Type) where
  id : String
  title : String
  severity : α
  /-- The sum of what speaks for the vulnerability. -/
  raw : α
  similarity : α
  matched : List String := []
  notes : String := ""
deriving Repr

/-- The sum of what speaks for the vulnerability, rounded to three places. -/
def Finding.shownRaw (f : Finding Float) : Float :=
  Decimal.roundPlaces 3 f.raw

/-- The result of one way to look for vulnerabilities. -/
structure Verdict (α : Type) where
  severity : α
  findings : List (Finding α) := []
deriving Repr

namespace Verdict

variable {α : Type} [Scalar α]

/-- The probability that one of several independent events happens. -/
def either (severities : List α) : α :=
  Scalar.clamp (severities.foldl (fun sum s => 1.0 - (1.0 - sum) * (1.0 - s)) 0.0)

/-- The findings by falling severity; equal ones stay in their order. -/
def ranked (findings : List (Finding α)) : List (Finding α) :=
  findings.mergeSort fun a b => decide (b.severity ≤ a.severity)

/-- The first `k` items; for a negative `k` all but the last ones. -/
def first {β : Type} (k : Int) (xs : List β) : List β :=
  if 0 ≤ k then xs.take k.toNat else xs.take (xs.length - (-k).toNat)

/-- The most findings that are reported. -/
def reportLimit : Nat := 5

/-- The verdict on a list of findings: the strongest ones combined, and those that pass a test reported. -/
def ofFindings (topK : Int) (reported : Finding α → Bool) (findings : List (Finding α)) : Verdict α :=
  let ranked := ranked findings
  { severity := either ((first topK ranked).map (·.severity))
    findings := (ranked.filter reported).take reportLimit }

end Verdict

end RiskGauge
