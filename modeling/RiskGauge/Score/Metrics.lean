import RiskGauge.Entries
import RiskGauge.Graph.Impact
import RiskGauge.Resource.BigO
import RiskGauge.Score.Curve

/-!
# Metrics of a source, and its three dimensions

`Metrics` holds all that was measured of a source. Each of the three dimensions — functionality, resource
use and dependability — is a number from zero to one.
-/

namespace RiskGauge

/-- All that was measured of a source. -/
structure Metrics (α : Type) where
  apiChanges : Int := 0
  totalApis : Int := 0
  coreTouched : Bool := false
  changedLines : Int := 0
  totalLines : Int := 1
  schemaChanged : Bool := false
  impact : Option (Functionality α) := none
  bigO : BigO := .unknown
  branching : Int := 1
  loopCount : Int := 0
  loopDepth : Int := 0
  recursive : Bool := false
  divides : Bool := false
  sorts : Bool := false
  patternBomb : Bool := false
  allocations : Int := 0
  bytes : Int := 0
  networkCalls : Int := 0
  fileCalls : Int := 0
  vulnerability : α
  reputation : α
  licenseMismatch : Bool := false
  permissionRisk : α
  reasons : List String := []

/-- The three dimensions of a source. -/
structure Dimensions (α : Type) where
  functionality : α
  resource : α
  dependability : α
deriving DecidableEq, Repr

namespace Metrics

variable {α : Type} [Scalar α]

/-- The metrics of nothing. -/
def neutral : Metrics α where
  vulnerability := 0.0
  reputation := 0.65
  permissionRisk := 0.0

/-- The share of the API that changed. -/
def apiRatio (m : Metrics α) : Except NumericError α := do
  return Scalar.clamp (← Scalar.quotient? m.apiChanges (max 1 m.totalApis))

/-- The share of the lines that changed. -/
def lineRatio (m : Metrics α) : Except NumericError α := do
  return Scalar.clamp (← Scalar.quotient? m.changedLines (max 1 m.totalLines))

/-- The use of memory: bytes on a logarithmic scale, and the number of allocations. -/
def memory (curves : Curves α) (m : Metrics α) : Except NumericError α := do
  let bytes := Scalar.clamp (curves.log2 (max 1 m.bytes).toNat / 24.0)
  let allocations ← Curve.saturateInt curves m.allocations 0.06
  return Scalar.clamp (0.7 * bytes + (1.0 - 0.7) * allocations)

/-- Functionality: the impact on the call graph, or else the changes of the structure. -/
def functionality (m : Metrics α) : Except NumericError α :=
  match m.impact with
  | some f => .ok (Scalar.clamp f.score)
  | none => do
    let api ← m.apiRatio
    let lines ← m.lineRatio
    return Scalar.clamp (api * 0.40 + Scalar.indicator m.coreTouched * 0.25 + lines * 0.20
      + Scalar.indicator m.schemaChanged * 0.15)

/-- The use of resources. -/
def resource (curves : Curves α) (m : Metrics α) : Except NumericError α := do
  let branching ← Curve.saturateInt curves (m.branching - 1) 0.12
  let memory ← m.memory curves
  let network ← Curve.saturateInt curves m.networkCalls 0.05
  let files ← Curve.saturateInt curves m.fileCalls 0.06
  return Scalar.clamp (m.bigO.severity * 0.32 + branching * 0.18 + memory * 0.22 + network * 0.18 + files * 0.10)

/-- Dependability: vulnerabilities, repute, licences and permissions. -/
def dependability (m : Metrics α) : α :=
  Scalar.clamp (m.vulnerability * 0.42 + (1.0 - m.reputation) * 0.25
    + Scalar.indicator m.licenseMismatch * 0.10 + m.permissionRisk * 0.23)

/-- The three dimensions. -/
def dimensions (curves : Curves α) (m : Metrics α) : Except NumericError (Dimensions α) := do
  return {
    functionality := ← m.functionality
    resource := ← m.resource curves
    dependability := m.dependability }

end Metrics

/-- The quantities behind the three dimensions, for display. -/
structure Signals (α : Type) where
  functionality : Entries α
  resource : Entries α
  dependability : Entries α

/-- The quantities behind the dimensions. -/
def Metrics.signals {α : Type} [Scalar α] (curves : Curves α) (m : Metrics α) :
    Except NumericError (Signals α) := do
  let impact (f : Functionality α → α) : α := (m.impact.map f).getD 0.0
  let functionality := [
    ("apiRatio", ← m.apiRatio),
    ("coreModuleModified", Scalar.indicator m.coreTouched),
    ("diffLineRatio", ← m.lineRatio),
    ("schemaChanged", Scalar.indicator m.schemaChanged),
    ("semanticScore", impact (·.score)),
    ("influencedEntrypoints", impact (·.entrypointRatio)),
    ("reachability", impact (·.reachRatio)),
    ("centrality", impact (·.centrality))]
  let resource := [
    ("timeComplexity", m.bigO.severity),
    ("cyclomaticComplexity", ← Scalar.ofInt? m.branching),
    ("loopDepthApprox", ← Scalar.ofInt? m.loopDepth),
    ("memBytesApprox", ← Scalar.ofInt? m.bytes),
    ("memNorm", ← m.memory curves),
    ("externalCallNorm", ← Curve.saturateInt curves m.networkCalls 0.05),
    ("ioCallNorm", ← Curve.saturateInt curves m.fileCalls 0.06)]
  return {
    functionality, resource
    dependability := [
      ("cveSeverity", m.vulnerability),
      ("libReputation", m.reputation),
      ("licenseMismatch", Scalar.indicator m.licenseMismatch),
      ("sensitivePerm", m.permissionRisk)] }

end RiskGauge
