import RiskGauge.Analysis.Analyzer
import RiskGauge.Database.Dump
import RiskGauge.Score.Fusion

/-!
# The report on a source

The metrics of a source with its dimensions and its score, as JSON and in words.
-/

namespace RiskGauge

/-- All that is said about a source. -/
structure Report where
  metrics : Metrics Float
  dimensions : Dimensions Float
  signals : Signals Float
  score : Score Float

/-- Why there is no report on a source. -/
inductive ReportError where
  | analysis (error : AnalysisError)
  | numeric (error : NumericError)
  | weights (error : WeightsError)
deriving DecidableEq, Repr

/-- The wording of the error. -/
def ReportError.message : ReportError → String
  | analysis error => error.message
  | numeric error => error.message
  | weights error => error.message

/-- The report for given metrics. The weights are asked for after the dimensions are known. -/
def Report.ofMetrics (m : Metrics Float) (weights : Except WeightsError (Weights Float)) :
    Except ReportError Report :=
  match m.dimensions Curves.float, weights, m.signals Curves.float with
  | .error e, _, _ => .error (.numeric e)
  | .ok _, .error e, _ => .error (.weights e)
  | .ok _, .ok _, .error e => .error (.numeric e)
  | .ok dimensions, .ok w, .ok signals =>
    .ok { metrics := m, dimensions, signals, score := .ofDimensions w dimensions }

/-- The report on a source. -/
def Analyzer.assess (a : Analyzer) (s : Source) (weights : Except WeightsError (Weights Float)) :
    Except ReportError Report :=
  match a.analyze s with
  | .error e => .error (.analysis e)
  | .ok m => Report.ofMetrics m weights

/-- An impact as JSON. -/
def Functionality.toJson (f : Functionality Float) : Json :=
  .object [("score", .float f.score), ("impacted_entrypoint_ratio", .float f.entrypointRatio),
    ("reachable_nodes_ratio", .float f.reachRatio), ("centrality_score", .float f.centrality),
    ("nodes", .int f.nodes), ("entrypoints", .int f.entrypoints)]

/-- Metrics as JSON. -/
def Metrics.toJson (m : Metrics Float) : Json :=
  .object [("api_changes", .int m.apiChanges), ("total_apis", .int m.totalApis),
    ("core_touched", .bool m.coreTouched), ("diff_changed_lines", .int m.changedLines),
    ("total_lines", .int m.totalLines), ("schema_changed", .bool m.schemaChanged),
    ("semantic_f", (m.impact.map Functionality.toJson).getD .null), ("big_o", .text m.bigO.name),
    ("cc", .int m.branching), ("loop_count", .int m.loopCount), ("loop_depth_approx", .int m.loopDepth),
    ("recursion", .bool m.recursive), ("divide_and_conquer_hint", .bool m.divides), ("sort_hint", .bool m.sorts),
    ("regex_dos_hint", .bool m.patternBomb), ("mem_allocs", .int m.allocations), ("mem_bytes_approx", .int m.bytes),
    ("external_calls", .int m.networkCalls), ("io_calls", .int m.fileCalls),
    ("cve_severity", .float m.vulnerability), ("lib_reputation", .float m.reputation),
    ("license_mismatch", .bool m.licenseMismatch), ("perm_risk", .float m.permissionRisk),
    ("reasons", .list (m.reasons.map .text))]

/-- The dimensions as JSON. -/
def Dimensions.toJson (d : Dimensions Float) : Json :=
  .list [.float d.functionality, .float d.resource, .float d.dependability]

/-- The terms of a blend as JSON. -/
def Blend.toJson (b : Blend Float) : Json :=
  .object [("b", .float b.linear), ("c", .float b.anchored), ("alpha", .float b.alpha), ("rho", .float b.rho),
    ("s", .float b.step), ("sf", .float b.functionality), ("sr", .float b.resource), ("sd", .float b.dependability),
    ("mix_fr", .float b.mean)]

/-- The members that say what a score means. -/
def Score.members (s : Score Float) : List (String × Json) :=
  [("score", .float s.score), ("severity", .text s.band.name), ("level", .text s.band.level),
    ("action", .text s.band.action), ("weights", s.weights.toJson), ("components", s.blend.toJson)]

/-- The quantities behind the dimensions as JSON. -/
def Signals.toJson (s : Signals Float) : Json :=
  let table (es : Entries Float) : Json := .object (es.map fun (name, x) => (name, .float x))
  .object [("F", table s.functionality), ("R", table s.resource), ("D", table s.dependability)]

namespace Report

/-- The members of a report as JSON. -/
def members (r : Report) : List (String × Json) :=
  ("vector", r.dimensions.toJson) :: r.score.members
    ++ [("signal_table", r.signals.toJson), ("reasons", .list (r.metrics.reasons.map .text)),
      ("metrics", r.metrics.toJson)]

/-- ASCII letters as capitals. -/
def capitals (s : String) : String :=
  s.map Char.toUpper

/-- The report in words under a label. -/
def toText (label : String) (r : Report) : String :=
  let band := r.score.band
  let d := r.dimensions
  let fixed := Decimal.fixed 3
  String.intercalate "\n"
    ((label ++ ": score=" ++ Decimal.fixed 2 r.score.score ++ " " ++ capitals band.name ++ " (" ++ band.level
        ++ ") - " ++ band.action)
      :: ("  F=" ++ fixed d.functionality ++ " R=" ++ fixed d.resource ++ " D=" ++ fixed d.dependability)
      :: r.metrics.reasons.map ("  - " ++ ·))

end Report

end RiskGauge
