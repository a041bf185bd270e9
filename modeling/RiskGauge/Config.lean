import RiskGauge.Entries
import RiskGauge.Score.Weights
import RiskGauge.Yaml.Document

/-!
# Configurations

A configuration is made of the values in a file and of overrides, which win over the file; what neither gives
has a standard value. Overrides of single weights are put into the weights of the file. A file that is no YAML
counts as absent.
-/

namespace RiskGauge

/-- How sources are analysed and reported. -/
structure Config where
  weights : Weights Float
  rulesPath : String
  vectorsPath : String
  language : String
  outputFormat : String
  proximityLines : Int
  topK : Int
  /-- Values under other names. -/
  extra : Entries Value

/-- Why there is no configuration. -/
inductive ConfigError where
  /-- The file is not encoded as UTF-8. -/
  | badEncoding
  /-- A value in the file cannot be read. -/
  | unreadable (fault : Yaml.Fault)
  /-- The file or its weights are not a mapping. -/
  | notMapping (error : PairsError)
  /-- A name is not a text. -/
  | badName
  /-- Values do not fit their fields. -/
  | fields (errors : List FieldError)
deriving DecidableEq, Repr

/-- The wording of the error. -/
def ConfigError.message : ConfigError → String
  | badEncoding => "'utf-8' codec can't decode the configuration"
  | unreadable fault => fault.message
  | notMapping error => error.message
  | badName => "keywords must be strings"
  | fields errors =>
    toString errors.length ++ (if errors.length = 1 then " validation error" else " validation errors")
      ++ " for CodeRiskConfig"

namespace Config

/-- The file that is used if none is named. -/
def standardPath : String := "coderisk.config.yaml"

/-- The names of single weights. -/
def weightNames : List String := ["wF", "wR", "wD"]

/-- The names of the fields. -/
def fieldNames : List String :=
  ["weights", "rules_db_path", "vector_db_path", "language", "output_format", "proximity_default_lines", "top_k"]

/-- A value as a mapping; an empty value of any type is an empty one. -/
def mapping (v : Value) : Except ConfigError (List (Value × Value)) :=
  if v.isEmpty then .ok []
  else
    match v.toPairs with
    | .ok pairs => .ok pairs
    | .error e => .error (.notMapping e)

/-- The values in the text of a file. -/
def textPairs (text : List Char) : Except ConfigError (List (Value × Value)) :=
  match Yaml.read text with
  | .ok v => mapping v
  | .error .malformed => .ok []
  | .error fault => .error (.unreadable fault)

/-- The values in a file, if there is one. -/
def filePairs : Option ByteArray → Except ConfigError (List (Value × Value))
  | none => .ok []
  | some bytes =>
    match String.fromUTF8? bytes with
    | some text => textPairs text.toList
    | none => .error .badEncoding

/-- The pairs with some of them set. -/
def assignAll (entries : Entries Value) (pairs : List (Value × Value)) : List (Value × Value) :=
  entries.foldl (fun ps e => Value.assign (.text e.1) e.2 ps) pairs

/-- A value that is not null is given. -/
def isGiven : Value → Bool
  | .null => false
  | _ => true

/-- The pairs with single weights put into their weights. -/
def overrideWeights (weights : Entries Value) (pairs : List (Value × Value)) :
    Except ConfigError (List (Value × Value)) :=
  if weights.isEmpty then .ok pairs
  else do
    let old ← mapping ((Value.find? "weights" pairs).getD .null)
    return Value.assign (.text "weights") (.map (assignAll weights old)) pairs

/-- The pairs with the overrides put in. -/
def override (overrides : Entries Value) (pairs : List (Value × Value)) :
    Except ConfigError (List (Value × Value)) := do
  let given := overrides.filter fun e => isGiven e.2
  let pairs ← overrideWeights (given.filter fun e => weightNames.contains e.1) pairs
  return assignAll (given.filter fun e => !weightNames.contains e.1) pairs

/-- A field, or its standard value. -/
def field {α : Type} (pairs : List (Value × Value)) (name : String) (check : Leaf → Validated α) (standard : α) :
    Validated α :=
  match Value.find? name pairs with
  | some v => (check v.leaf).inside name
  | none => .valid standard

/-- The weights. -/
def weightsField (pairs : List (Value × Value)) : Validated (Weights Float) :=
  match Value.find? "weights" pairs with
  | none => .valid Weights.standard
  | some (.map weights) => (Weights.ofPairs weights).inside "weights"
  | some _ => (Validated.fail .notObject).inside "weights"

/-- The values that belong to no field. -/
def extraPairs (pairs : List (Value × Value)) : Entries Value :=
  pairs.filterMap fun
    | (.text name, v) => if fieldNames.contains name then none else some (name, v)
    | _ => none

/-- The fields in a mapping. -/
def check (pairs : List (Value × Value)) : Validated Config :=
  Config.mk <$> weightsField pairs
    <*> field pairs "rules_db_path" Leaf.asText "cve_data/generated_cve_rules.json"
    <*> field pairs "vector_db_path" Leaf.asText "cve_data/generated_cve_db.json"
    <*> field pairs "language" Leaf.asText "typescript"
    <*> field pairs "output_format" Leaf.asText "json"
    <*> field pairs "proximity_default_lines" Leaf.asInteger 5
    <*> field pairs "top_k" Leaf.asInteger 3
    <*> .valid (extraPairs pairs)

/-- The key is a text. -/
def isName : Value → Bool
  | .text _ => true
  | _ => false

/-- The configuration in a mapping. -/
def ofPairs (pairs : List (Value × Value)) : Except ConfigError Config :=
  if pairs.any fun p => !isName p.1 then .error .badName
  else
    match check pairs with
    | .valid c => .ok c
    | .invalid errors => .error (.fields errors)

/-- The configuration of a file, if there is one, and overrides. -/
def load (file : Option ByteArray) (overrides : Entries Value) : Except ConfigError Config := do
  ofPairs (← override overrides (← filePairs file))

/-- The configuration as JSON. -/
def toJson (c : Config) : Json :=
  .object ([("weights", c.weights.toJson), ("rules_db_path", .text c.rulesPath), ("vector_db_path", .text c.vectorsPath),
    ("language", .text c.language), ("output_format", .text c.outputFormat),
    ("proximity_default_lines", .int c.proximityLines), ("top_k", .int c.topK)]
    ++ c.extra.map fun (name, v) => (name, v.toJson))

end Config

end RiskGauge
