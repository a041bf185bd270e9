import RiskGauge.Analysis.Report
import RiskGauge.CommandLine.Command
import RiskGauge.Config
import RiskGauge.Database.Load
import RiskGauge.File.Error
import RiskGauge.Json.Printer
import RiskGauge.Reply.Snippet
import RiskGauge.Text.Lines

/-!
# Running commands

A command reads files and then prints something or fails. What it runs on is left open (`Host`). Nothing is printed
before all is known, so a command that fails prints nothing.
-/

namespace RiskGauge.CommandLine

/-- Why a command fails. -/
inductive CommandError where
  | file (error : FileError)
  | config (error : ConfigError)
  | database (error : LoadError)
  | block (error : Snippet.BlockError)
  | report (error : ReportError)
deriving DecidableEq, Repr

/-- The wording of the error. -/
def CommandError.message : CommandError → String
  | file e => e.message
  | config e => e.message
  | database e => e.message
  | block e => e.message
  | report e => e.message

/-- What a command prints. -/
inductive Output where
  /-- Reports as one document. -/
  | document (v : Json)
  | text (s : String)

/-- The printed text. -/
def Output.toText : Output → String
  | document v => v.indented ++ "\n"
  | text s => s ++ "\n"

/-- The report on a file. -/
structure FileReport where
  file : String
  /-- The path that the source is meant for. -/
  path : Option String
  language : String
  report : Report

namespace FileReport

/-- The report as JSON. -/
def toJson (r : FileReport) : Json :=
  .object ([("file", .text r.file), ("hinted_path", (r.path.map Json.text).getD .null), ("language", .text r.language)]
    ++ r.report.members)

/-- The report in words. -/
def toText (r : FileReport) : String :=
  r.report.toText r.file

end FileReport

/-- The reports in an output format: texts with blank lines between them, or a document, which is a list unless
there is one report only. -/
def Output.ofReports (format : String) (reports : List FileReport) : Output :=
  if format == "text" then .text (String.intercalate "\n\n" (reports.map FileReport.toText))
  else
    match reports with
    | [r] => .document r.toJson
    | rs => .document (.list (rs.map FileReport.toJson))

/-- The endings of files that are replies. -/
def replyEndings : List String :=
  [".md", ".markdown", ".txt"]

/-- The file is a reply by its name. -/
def isReply (file : String) : Bool :=
  replyEndings.contains (String.ofList (Text.lowercase (PathName.ending file.toList)))

/-- An argument that is given and not empty. -/
def given? : Option String → Option String
  | some "" => none
  | s => s

namespace AnalyzeOptions

/-- The options that win over a configuration file. -/
def overrides (o : AnalyzeOptions) : Entries Value :=
  let text (s : Option String) : Value := (s.map Value.text).getD .null
  let number (x : Option Float) : Value := (x.map Value.float).getD .null
  [("rules_db_path", text o.rulesPath), ("vector_db_path", text o.vectorsPath), ("output_format", text o.format),
    ("wF", number o.functionality), ("wR", number o.resource), ("wD", number o.dependability)]

/-- The path of the configuration file. -/
def configPath (o : AnalyzeOptions) : String :=
  (given? o.config).getD Config.standardPath

/-- The source in the text of a file, with the path that it is meant for and its language. -/
def source (o : AnalyzeOptions) (config : Config) (before : Option (List Char)) (file : String) (text : List Char) :
    Except Snippet.BlockError Source :=
  if o.markdown || isReply file then do
    let snippet ← Snippet.primary text o.block
    return { code := snippet.code.toList, path := given? o.path <|> snippet.suggested,
             language := some snippet.language, before }
  else
    return { code := text, path := some ((given? o.path).getD file),
             language := some ((Tag.ofPath? file).getD config.language), before }

end AnalyzeOptions

/-- The text of a file. -/
def decode (content : Except FileError ByteArray) : Except CommandError (List Char) := do
  match content with
  | .error e => throw (.file e)
  | .ok bytes =>
    match String.fromUTF8? bytes with
    | some text => return Text.unifyBreaks text.toList
    | none => throw (.file .badEncoding)

/-- The report on the content of a file. -/
def FileReport.ofContent (o : AnalyzeOptions) (config : Config) (analyzer : Analyzer) (before : Option (List Char))
    (file : String) (content : Except FileError ByteArray) : Except CommandError FileReport := do
  let text ← decode content
  match o.source config before file text with
  | .error e => throw (.block e)
  | .ok source =>
    match analyzer.assess source (.ok config.weights) with
    | .error e => throw (.report e)
    | .ok report => return { file, path := source.path, language := source.language.getD "", report }

/-- The scanner of a configuration, from the contents of its databases. -/
def scanner (room : Nat) (strict : Bool) (config : Config) (rules vectors : Except FileError ByteArray) :
    Except LoadError (Scanner Float) := do
  return { rules := ← RuleDatabase.load room strict config.rulesPath rules.toOption
           vectors := ← VectorDatabase.load room strict config.vectorsPath vectors.toOption
           proximityLines := config.proximityLines, topK := config.topK }

/-- What a program runs on. -/
structure Host (m : Type → Type) where
  /-- The content of a file: `m` is the identity for files in memory, and `IO` for the files of a system. -/
  file : String → m (Except FileError ByteArray)
  /-- The reader of sources. -/
  reader : SourceReader
  /-- The room for lists and objects inside one another in a database. -/
  room : Nat

section Run

variable {m : Type → Type} [Monad m] (host : Host m)

/-- The content of a file, or why it is not read. -/
def content (path : String) : ExceptT CommandError m (Except FileError ByteArray) :=
  ExceptT.lift (host.file path)

/-- The text of a file. -/
def fileText (path : String) : ExceptT CommandError m (List Char) := do
  ExceptT.mk (pure (decode (← content host path)))

/-- The configuration of a command. -/
def resolve (o : AnalyzeOptions) : ExceptT CommandError m Config := do
  let file ← content host o.configPath
  ExceptT.mk (pure ((Config.load file.toOption o.overrides).mapError .config))

/-- The analyzer of a configuration. -/
def analyzer (strict : Bool) (config : Config) : ExceptT CommandError m Analyzer := do
  let rules ← content host config.rulesPath
  let vectors ← content host config.vectorsPath
  let scanner ← ExceptT.mk (pure ((scanner host.room strict config rules vectors).mapError .database))
  return { reader := host.reader, scanner }

/-- The text of the version before, if there is one. -/
def previousText (o : AnalyzeOptions) : ExceptT CommandError m (Option (List Char)) := do
  match given? o.previous with
  | some path => return some (← fileText host path)
  | none => return none

/-- The report on a file. -/
def report (o : AnalyzeOptions) (config : Config) (analyzer : Analyzer) (before : Option (List Char))
    (file : String) : ExceptT CommandError m FileReport := do
  let bytes ← content host file
  ExceptT.mk (pure (FileReport.ofContent o config analyzer before file bytes))

/-- Scores sources. -/
def analyze (o : AnalyzeOptions) : ExceptT CommandError m Output := do
  let config ← resolve host o
  let analyzer ← analyzer host o.strict config
  let before ← previousText host o
  let reports ← o.files.mapM (report host o config analyzer before)
  return Output.ofReports config.outputFormat reports

/-- The grammar for a language, or else for the name of a file. -/
def grammar (language : Option String) (file : String) : Grammar :=
  Grammar.ofTag ((given? language <|> Tag.ofPath? file).getD "")

/-- Lists declarations. -/
def signatures (file : String) (language : Option String) : ExceptT CommandError m Output := do
  let text ← fileText host file
  let found := Api.signatures host.reader (grammar language file) text
  let shown (s : Api.Signature) : Json :=
    .object [("kind", .text s.kind.name), ("name", .text s.name), ("signature", .text s.text)]
  return .text (Json.list (found.map shown)).indented

/-- Counts changes. -/
def diff (previous current : String) (language : Option String) : ExceptT CommandError m Output := do
  let before ← fileText host previous
  let after ← fileText host current
  let d := Api.sourceDiff host.reader (grammar language current) before after
  return .text (Json.object [("added", .int d.added), ("removed", .int d.removed), ("changed", .int d.changed),
    ("api_changes", .int d.changes), ("total_apis", .int d.total)]).indented

/-- Runs a command. -/
def Command.run : Command → ExceptT CommandError m Output
  | .analyze o => CommandLine.analyze host o
  | .signatures file language => CommandLine.signatures host file language
  | .diff previous current language => CommandLine.diff host previous current language

end Run

/-- How a run of the program ends. -/
inductive Outcome where
  | printed (output : Output)
  | failed (error : CommandError)
  | refused (reason : Refusal)

namespace Outcome

/-- The exit code. -/
def exitCode : Outcome → Nat
  | printed _ | refused .help => 0
  | failed _ => 1
  | refused .wrong => 2

/-- What is said about an error. -/
def errorText (e : CommandError) : String :=
  "❌ An unexpected error occurred: " ++ e.message

/-- The text on standard output. -/
def printedText : Outcome → String
  | printed output => output.toText
  | _ => ""

end Outcome

/-- Runs the program. -/
def run {m : Type → Type} [Monad m] (host : Host m) (args : List String) : m Outcome := do
  match Command.read args with
  | .error reason => return .refused reason
  | .ok command =>
    match ← (command.run host).run with
    | .ok output => return .printed output
    | .error e => return .failed e

end RiskGauge.CommandLine
