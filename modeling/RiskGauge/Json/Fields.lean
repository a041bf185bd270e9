import RiskGauge.Entries
import RiskGauge.Field.Leaf
import RiskGauge.Json.Basic

/-!
# Fields of JSON objects

Members that are null count as missing. A field may have a second name; its first name wins.
-/

namespace RiskGauge.Json

/-- A JSON value as a simple value. -/
def leaf : Json → Leaf
  | text s => .text s
  | int n => .int n
  | float x => .float x
  | bool b => .bool b
  | _ => .other

/-- The value is null. -/
def isNull : Json → Bool
  | null => true
  | _ => false

/-- The members of an object that are not null. -/
def fields? : Json → Option (Entries Json)
  | object members => some (members.filter fun m => !m.2.isNull)
  | _ => none

namespace Fields

variable {α : Type}

/-- The value of the first of the names that is there, with that name. -/
def lookup? (fields : Entries Json) : List String → Option (String × Json)
  | [] => none
  | name :: rest =>
    match fields.find? name with
    | some v => some (name, v)
    | none => lookup? fields rest

/-- A field that has to be there. -/
def required (fields : Entries Json) (name : String) (check : Json → Validated α) : Validated α :=
  match fields.find? name with
  | some v => (check v).inside name
  | none => (Validated.fail .missing).inside name

/-- A field with a value to fall back on. -/
def orElse (fields : Entries Json) (names : List String) (standard : α) (check : Json → Validated α) :
    Validated α :=
  match lookup? fields names with
  | some (name, v) => (check v).inside name
  | none => .valid standard

/-- A field that may be missing. -/
def maybe (fields : Entries Json) (name : String) (check : Json → Validated α) : Validated (Option α) :=
  orElse fields [name] none fun v => some <$> check v

end Fields

/-- A text. -/
def asText (v : Json) : Validated String := v.leaf.asText

/-- A number. -/
def asFloat (v : Json) : Validated Float := v.leaf.asFloat

/-- A whole number. -/
def asInteger (v : Json) : Validated Int := v.leaf.asInteger

/-- A list of texts. -/
def asTexts : Json → Validated (List String)
  | list items => .all (items.zipIdx.map fun (v, i) => (asText v).inside (toString i))
  | _ => .fail .notList

end RiskGauge.Json
