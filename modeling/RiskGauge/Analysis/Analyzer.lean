import RiskGauge.Api.Diff
import RiskGauge.Detect.Scanner
import RiskGauge.Graph.Build
import RiskGauge.Resource.Scan
import RiskGauge.Score.Metrics
import RiskGauge.Script.Tag
import RiskGauge.Structure.ChangedLines
import RiskGauge.Structure.CorePath
import RiskGauge.Structure.Schema

/-!
# The metrics of a source

All scans of a source put together. The language of a source is told by its tag, or else by the ending of the
file name that it is meant for.
-/

namespace RiskGauge

/-- What sources are analysed with. -/
structure Analyzer where
  reader : SourceReader
  scanner : Scanner Float := {}
  unit : String := "snippet.ts"

/-- A source, and what is known about it. -/
structure Source where
  code : List Char
  path : Option String := none
  language : Option String := none
  before : Option (List Char) := none

/-- Why a source cannot be analysed. -/
inductive AnalysisError where
  | resource (fault : Text.IntegerFault)
  | pattern (fault : Pattern.Fault)
deriving DecidableEq, Repr

/-- The wording of the error. -/
def AnalysisError.message : AnalysisError → String
  | resource fault => "Static analysis failed: " ++ fault.message
  | pattern fault => "Static analysis failed: " ++ fault.message

namespace Source

/-- A text that is not empty. -/
def given? : Option String → Option String
  | some "" => none
  | s => s

/-- The tag of the language. -/
def tag (s : Source) : String :=
  ((given? s.language) <|> (given? s.path).bind Tag.ofPath?).getD ""

/-- The changes of the API since the version before. -/
def apiDiff (reader : SourceReader) (s : Source) : Api.Diff :=
  let grammar := Grammar.ofTag s.tag
  let before := match s.before with
    | some code => Api.signatures reader grammar code
    | none => []
  Api.diff before (Api.signatures reader grammar s.code)

/-- The impact of the change on the call graph, if there is one for the language. -/
def impact? (reader : SourceReader) (unit : String) (s : Source) : Option (Functionality Float) :=
  if Tag.hasGraph s.tag then
    (CallGraph.build reader unit (Grammar.ofTag s.tag) s.code s.before).functionality?.map Functionality.rounded
  else none

/-- The source touches the core of a program. -/
def touchesCore (s : Source) : Bool :=
  s.path.any CorePath.isCore

end Source

namespace Analyzer

/-- The warnings about empty databases. -/
def warnings (a : Analyzer) : List String :=
  a.scanner.warnings.map ("warn:" ++ ·)

/-- The metrics that the scans of a source give. -/
def metricsOf (a : Analyzer) (s : Source) (resource : Resource.Signals) (security : Dependability Float) :
    Metrics Float :=
  let diff := s.apiDiff a.reader
  { apiChanges := diff.changes
    totalApis := diff.total
    coreTouched := s.touchesCore
    changedLines := ChangedLines.count s.code s.before
    totalLines := Text.lineCount s.code
    schemaChanged := Schema.changes s.code
    impact := s.impact? a.reader a.unit
    bigO := resource.complexity.bigO
    branching := resource.complexity.branching
    loopCount := resource.complexity.loopCount
    loopDepth := resource.complexity.loopDepth
    recursive := resource.complexity.recursive
    divides := resource.complexity.divides
    sorts := resource.complexity.sorts
    patternBomb := resource.complexity.patternBomb
    allocations := resource.memory.allocations
    bytes := resource.memory.bytes
    networkCalls := resource.outside.networkCalls
    fileCalls := resource.outside.fileCalls
    vulnerability := security.severity
    reputation := security.reputation
    licenseMismatch := security.licenseMismatch
    permissionRisk := security.permissionRisk
    reasons :=
      security.reasons ++ resource.reasons
        ++ (if Schema.changes s.code then [Schema.reason s.code] else [])
        ++ (if s.touchesCore then ["Core module touched: " ++ s.path.getD ""] else [])
        ++ a.warnings }

/-- The metrics of a source. A blank one has none to speak of. -/
def analyze (a : Analyzer) (s : Source) : Except AnalysisError (Metrics Float) :=
  if Text.isBlankText s.code then
    .ok { Metrics.neutral with reputation := Permission.reputation [], reasons := a.warnings }
  else
    match Resource.scan s.code with
    | .error fault => .error (.resource fault)
    | .ok resource =>
      match a.scanner.scan Curves.float s.code with
      | .error fault => .error (.pattern fault)
      | .ok security => .ok (a.metricsOf s resource security)

end Analyzer

end RiskGauge
