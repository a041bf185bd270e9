import RiskGauge.CommandLine.Arguments
import RiskGauge.Decimal.Read

/-!
# Commands

The three commands and their options: `analyze` scores sources, `signatures` lists the declarations of a source,
and `diff` counts the changes between two versions of one.
-/

namespace RiskGauge.CommandLine

/-- How sources are scored. -/
structure AnalyzeOptions where
  files : List String
  config : Option String := none
  /-- Every file is a reply with code blocks. -/
  markdown : Bool := false
  /-- The index of the code block that counts. -/
  block : Option Int := none
  /-- The path that the sources are meant for. -/
  path : Option String := none
  previous : Option String := none
  format : Option String := none
  rulesPath : Option String := none
  vectorsPath : Option String := none
  functionality : Option Float := none
  resource : Option Float := none
  dependability : Option Float := none
  /-- A database that cannot be loaded is an error. -/
  strict : Bool := false

/-- A command. -/
inductive Command where
  | analyze (options : AnalyzeOptions)
  | signatures (file : String) (language : Option String)
  | diff (previous current : String) (language : Option String)

namespace Command

/-- Options that every command has. -/
def commonFlags : List Flag :=
  [{ names := ["--config"], takesValue := true }, { names := ["--verbose", "-v"] }]

/-- The whole number that an argument stands for. -/
def integer? (s : String) : Option Int :=
  (Text.readInteger s.toList).toOption

/-- The number that an argument stands for. -/
def number? (s : String) : Option Float :=
  Decimal.readNumber? s.toList

/-- The usage of `analyze`. -/
def analyzeUsage : Usage where
  flags := commonFlags ++
    [{ names := ["--markdown"] },
      { names := ["--block"], takesValue := true, accepts := fun s => (integer? s).isSome },
      { names := ["--path"], takesValue := true },
      { names := ["--previous"], takesValue := true },
      { names := ["--format"], takesValue := true, accepts := fun s => s == "json" || s == "text" },
      { names := ["--rules-db"], takesValue := true },
      { names := ["--vector-db"], takesValue := true },
      { names := ["--wF"], takesValue := true, accepts := fun s => (number? s).isSome },
      { names := ["--wR"], takesValue := true, accepts := fun s => (number? s).isSome },
      { names := ["--wD"], takesValue := true, accepts := fun s => (number? s).isSome },
      { names := ["--strict-db"] }]
  places := [.many]

/-- The option for the language of a source. -/
def languageFlag : Flag where
  names := ["--language"]
  takesValue := true

/-- The usage of `signatures`. -/
def signaturesUsage : Usage where
  flags := languageFlag :: commonFlags
  places := [.one]

/-- The usage of `diff`. -/
def diffUsage : Usage where
  flags := languageFlag :: commonFlags
  places := [.one, .one]

/-- The `analyze` command that was found. -/
def ofAnalyze (found : Found) : Except Refusal Command :=
  match found.places with
  | [files] => .ok (analyze {
      files
      config := found.value? "--config"
      markdown := found.has "--markdown"
      block := (found.value? "--block").bind integer?
      path := found.value? "--path"
      previous := found.value? "--previous"
      format := found.value? "--format"
      rulesPath := found.value? "--rules-db"
      vectorsPath := found.value? "--vector-db"
      functionality := (found.value? "--wF").bind number?
      resource := (found.value? "--wR").bind number?
      dependability := (found.value? "--wD").bind number?
      strict := found.has "--strict-db" })
  | _ => .error .wrong

/-- The command of this name with its arguments. -/
def ofName (name : String) (args : List String) : Except Refusal Command := do
  match name with
  | "analyze" => ofAnalyze (← analyzeUsage.read args)
  | "signatures" =>
    let found ← signaturesUsage.read args
    match found.places with
    | [[file]] => return signatures file (found.value? "--language")
    | _ => throw .wrong
  | "diff" =>
    let found ← diffUsage.read args
    match found.places with
    | [[previous], [current]] => return diff previous current (found.value? "--language")
    | _ => throw .wrong
  | _ => throw .wrong

/-- Reads the arguments of the program: options that are not known in front of the command are refused only
after its own arguments were read. -/
def readFrom (surplus : Bool) : List String → Except Refusal Command
  | [] => .error .wrong
  | arg :: rest => do
    if arg == "--" then throw .wrong
    match ← role [helpFlag] arg.toList with
    | .plain =>
      let command ← ofName arg rest
      if surplus then throw .wrong else return command
    | .flag f name attached =>
      let taken ← takeFlags [helpFlag] none (arg.length + 1) f name attached
      let _ ← addValues {} taken.values
      readFrom surplus rest
    | _ => readFrom true rest

/-- The command that the arguments of the program stand for. -/
def read (args : List String) : Except Refusal Command :=
  readFrom false args

end Command

end RiskGauge.CommandLine
