import RiskGauge.Text.Lines
import RiskGauge.Value.Basic
import RiskGauge.Yaml.Node
import RiskGauge.Yaml.Number

/-!
# Values of YAML texts

`Yaml.read` gives the value of the only document in a text. Of several values for a key the last one counts.
The key `<<` brings in the pairs of a mapping or of a list of mappings; the pairs of the mapping itself win over
them, and earlier mappings in the list over later ones.
-/

namespace RiskGauge.Yaml

/-- The value of a scalar. -/
def scalarValue (tag : Tag) (text : List Char) : Except Fault Value :=
  match tag with
  | .null => .ok .null
  | .bool => (Number.truth text).map .bool
  | .int => (Number.integer text).map .int
  | .float => (Number.fraction text).map .float
  | .timestamp =>
    if Tag.hasForm Tag.timestampForm text then
      (Number.checkDate text).map fun _ =>
        .foreign (if Number.hasTime text then "datetime.datetime" else "datetime.date") (String.ofList text)
    else .error .malformed
  | .text => .ok (.text (String.ofList text))
  | .merge | .value | .list | .map | .other => .error .malformed

/-- The pairs one after the other as a mapping. -/
def combine (pairs : List (Value × Value)) : List (Value × Value) :=
  pairs.foldl (fun es p => Value.assign p.1 p.2 es) []

/-- A value as a key. -/
def asKey (v : Value) : Except Fault Value :=
  if v.isKey then .ok v else .error .malformed

mutual
/-- The value of a node. -/
def value : Node → Except Fault Value
  | .scalar tag text => scalarValue tag text
  | .list tag items =>
    if tag == .list then (values items).map .list else .error .malformed
  | .map tag pairs =>
    if tag == .map then (pairValues pairs).map fun (merged, own) => .map (combine (merged ++ own))
    else .error .malformed

/-- The values of nodes. -/
def values : List Node → Except Fault (List Value)
  | [] => .ok []
  | node :: rest => do
    let v ← value node
    return v :: (← values rest)

/-- The pairs that a mapping brings in, and its own. -/
def pairValues : List (Node × Node) → Except Fault (List (Value × Value) × List (Value × Value))
  | [] => .ok ([], [])
  | (.scalar .merge _, node) :: rest => do
    let brought ← broughtBy node
    let (merged, own) ← pairValues rest
    return (brought ++ merged, own)
  | (.scalar .value _, node) :: rest => do
    let v ← value node
    let (merged, own) ← pairValues rest
    return (merged, (.text "=", v) :: own)
  | (key, node) :: rest => do
    let k ← asKey (← value key)
    let v ← value node
    let (merged, own) ← pairValues rest
    return (merged, (k, v) :: own)

/-- The pairs that a node brings into a mapping. -/
def broughtBy : Node → Except Fault (List (Value × Value))
  | .scalar _ _ => .error .malformed
  | .map _ pairs => (pairValues pairs).map fun (merged, own) => merged ++ own
  | .list _ items => broughtByAll items

/-- The pairs that a list of mappings brings in, those of the last one first. -/
def broughtByAll : List Node → Except Fault (List (Value × Value))
  | [] => .ok []
  | .map _ pairs :: rest => do
    let (merged, own) ← pairValues pairs
    let later ← broughtByAll rest
    return later ++ (merged ++ own)
  | _ :: _ => .error .malformed
end

/-- The value of a text; null if it holds no document. -/
def read (text : List Char) : Except Fault Value :=
  match (tokens? (Text.unifyBreaks text)).bind Node.ofTokens? with
  | none => .error .malformed
  | some none => .ok .null
  | some (some node) => value node

end RiskGauge.Yaml
