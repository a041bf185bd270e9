import RiskGauge.Decimal.Write
import RiskGauge.Field.Leaf
import RiskGauge.Json.Basic

/-!
# Values of configurations

A `Value` is what a configuration file or an option can hold. The keys of a mapping are values themselves.
-/

namespace RiskGauge

/-- A value of a configuration. -/
inductive Value where
  | null
  | bool (b : Bool)
  | int (n : Int)
  | float (x : Float)
  | text (s : String)
  | list (items : List Value)
  | map (pairs : List (Value × Value))
  /-- A value of a type that no field takes, with the name of the type and its text. -/
  | foreign (type text : String)
deriving Inhabited

namespace Value

/-- The value as a simple value. -/
def leaf : Value → Leaf
  | text s => .text s
  | int n => .int n
  | float x => .float x
  | bool b => .bool b
  | _ => .other

/-- The name of the type of a value. -/
def typeName : Value → String
  | null => "NoneType"
  | bool _ => "bool"
  | int _ => "int"
  | float _ => "float"
  | text _ => "str"
  | list _ => "list"
  | map _ => "dict"
  | foreign type _ => type

/-- The value counts as empty. -/
def isEmpty : Value → Bool
  | null => true
  | bool b => !b
  | int n => n = 0
  | float x => x == 0
  | text s => s = ""
  | list items => items.isEmpty
  | map pairs => pairs.isEmpty
  | foreign _ _ => false

/-- The number that a value stands for as a key. -/
def keyNumber? : Value → Option Float
  | bool b => some (if b then 1 else 0)
  | int n => Binary64.ofInt? n
  | float x => some x
  | _ => none

/-- Two keys are the same: equal texts, equal numbers of any type, or both null. -/
def sameKey : Value → Value → Bool
  | text s, text t => s = t
  | null, null => true
  | int m, int n => m = n
  | foreign a s, foreign b t => a = b && s = t
  | a, b =>
    match a.keyNumber?, b.keyNumber? with
    | some x, some y => x == y
    | _, _ => false

/-- The value can be a key. -/
def isKey : Value → Bool
  | list _ | map _ => false
  | _ => true

/-- The pairs with one of them set: in its old place, or else at the end. -/
def assign (key value : Value) : List (Value × Value) → List (Value × Value)
  | [] => [(key, value)]
  | (k, v) :: rest => if k.sameKey key then (k, value) :: rest else (k, v) :: assign key value rest

/-- The value of a key that is a text. -/
def find? (name : String) (pairs : List (Value × Value)) : Option Value :=
  (pairs.find? fun p => p.1.sameKey (.text name)).map Prod.snd

mutual
/-- A JSON value. -/
def ofJson : Json → Value
  | .null => null
  | .bool b => bool b
  | .int n => int n
  | .float x => float x
  | .text s => text s
  | .list items => list (ofItems items)
  | .object members => map (ofMembers members)

/-- The items of a JSON list. -/
def ofItems : List Json → List Value
  | [] => []
  | v :: rest => ofJson v :: ofItems rest

/-- The members of a JSON object. -/
def ofMembers : List (String × Json) → List (Value × Value)
  | [] => []
  | (name, v) :: rest => (text name, ofJson v) :: ofMembers rest
end

/-- A key as the name of a JSON member. -/
def keyText : Value → String
  | text s => s
  | int n => toString n
  | float x => Decimal.shortest x
  | bool b => if b then "true" else "false"
  | null => "null"
  | foreign _ s => s
  | list _ | map _ => ""

mutual
/-- The value as JSON. -/
def toJson : Value → Json
  | null => .null
  | bool b => .bool b
  | int n => .int n
  | float x => .float x
  | text s => .text s
  | list items => .list (toItems items)
  | map pairs => .object (toMembers pairs)
  | foreign _ s => .text s

/-- The items as JSON. -/
def toItems : List Value → List Json
  | [] => []
  | v :: rest => toJson v :: toItems rest

/-- The pairs as JSON. -/
def toMembers : List (Value × Value) → List (String × Json)
  | [] => []
  | (k, v) :: rest => (keyText k, toJson v) :: toMembers rest
end

end Value

end RiskGauge
