import RiskGauge.Value.Basic

/-!
# Mappings from loose values

A mapping may be given as a mapping or as a list of pairs; a pair is a list, a text or a mapping with two
items.
-/

namespace RiskGauge

/-- Why a value is not read as a mapping. -/
inductive PairsError where
  /-- The value has no items. -/
  | notIterable (type : String)
  /-- An item has no items of its own. -/
  | notPair (position : Nat)
  /-- An item has another number of items than two. -/
  | badLength (position length : Nat)
  /-- A key is a list or a mapping. -/
  | badKey (type : String)
deriving DecidableEq, Repr

/-- The wording of the error. -/
def PairsError.message : PairsError → String
  | notIterable type => s!"'{type}' object is not iterable"
  | notPair position => s!"cannot convert dictionary update sequence element #{position} to a sequence"
  | badLength position length =>
    s!"dictionary update sequence element #{position} has length {length}; 2 is required"
  | badKey type => s!"unhashable type: '{type}'"

namespace Value

/-- The items of a value. -/
def items? : Value → Option (List Value)
  | list items => some items
  | text s => some (s.toList.map fun c => text (String.singleton c))
  | map pairs => some (pairs.map Prod.fst)
  | _ => none

/-- The items of a list as pairs, added to those of a mapping, from a position on. -/
def addPairs (pairs : List (Value × Value)) : Nat → List Value → Except PairsError (List (Value × Value))
  | _, [] => .ok pairs
  | position, item :: rest =>
    match item.items? with
    | none => .error (.notPair position)
    | some [k, v] =>
      if k.isKey then addPairs (assign k v pairs) (position + 1) rest else .error (.badKey k.typeName)
    | some other => .error (.badLength position other.length)

/-- The mapping that a value stands for. -/
def toPairs (v : Value) : Except PairsError (List (Value × Value)) :=
  match v with
  | map pairs => .ok pairs
  | _ =>
    match v.items? with
    | some items => addPairs [] 0 items
    | none => .error (.notIterable v.typeName)

end Value

end RiskGauge
