import RiskGauge.Detect.Permission
import RiskGauge.Detect.VectorScan
import RiskGauge.Text.PathName

/-!
# Dependability

Both ways to look for vulnerabilities together, with permissions and the repute of packages.
-/

namespace RiskGauge

/-- The databases and options with which sources are scanned. -/
structure Scanner (α : Type) where
  rules : RuleDatabase α := {}
  vectors : VectorDatabase α := {}
  /-- How far apart close lines are where a rule does not say it. -/
  proximityLines : Int := 5
  /-- How many of the strongest findings count. -/
  topK : Int := 3

/-- What a scan says about the dependability of a source. -/
structure Dependability (α : Type) where
  severity : α
  ruleVerdict : Verdict α
  vectorVerdict : Verdict α
  reputation : α
  licenseMismatch : Bool := false
  permissionRisk : α

/-- The findings in words. -/
def Dependability.reasons (d : Dependability Float) : List String :=
  let fixed := Decimal.fixed 2
  (d.ruleVerdict.findings.map fun f => s!"regex:{f.id} sev=" ++ fixed f.severity)
    ++ d.vectorVerdict.findings.map fun f =>
      s!"vector:{f.id} sim=" ++ fixed f.similarity ++ " sev=" ++ fixed f.severity

namespace Scanner

variable {α : Type}

/-- The name of a database: the file that it comes from, or else a general name. -/
def label (source : Option String) (standard : String) : String :=
  match source with
  | some "" => standard
  | some path => String.ofList (PathName.fileName path.toList)
  | none => standard

/-- The databases that are empty, in words. -/
def warnings (s : Scanner α) : List String :=
  (if s.rules.signatures.isEmpty then
    [label s.rules.source "regex rule database" ++ " not loaded -> regex score = 0"] else [])
    ++ (if s.vectors.signatures.isEmpty then
      [label s.vectors.source "vector signature database" ++ " not loaded -> vector score = 0"] else [])

/-- The dependability of a source. -/
def scan [Scalar α] (curves : Curves α) (s : Scanner α) (source : List Char) :
    Except Pattern.Fault (Dependability α) := do
  let ruleVerdict ← RuleScan.scan curves s.rules s.proximityLines s.topK source
  let vectorVerdict ← VectorScan.scan curves s.vectors s.rules s.topK source
  return {
    severity := Verdict.either [ruleVerdict.severity, vectorVerdict.severity]
    ruleVerdict, vectorVerdict
    reputation := Permission.reputation source
    permissionRisk := Permission.risk source }

end Scanner

end RiskGauge
