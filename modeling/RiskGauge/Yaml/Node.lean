import RiskGauge.Entries
import RiskGauge.Yaml.Layout
import RiskGauge.Yaml.Tag

/-!
# Nodes of a YAML text

`Node.ofTokens?` puts the tokens of a text together: it has at most one document, which is a scalar, a list or
a mapping. Aliases are replaced by the node of their anchor, which has to be complete.
-/

namespace RiskGauge.Yaml

/-- A node of a document. -/
inductive Node where
  | scalar (tag : Tag) (text : List Char)
  | list (tag : Tag) (items : List Node)
  | map (tag : Tag) (pairs : List (Node × Node))

namespace Node

/-- Nothing where a node could stand. -/
def nothing : Node :=
  scalar .null []

/-- The tokens that are left, the anchors so far and the addresses of the handles of tags. -/
structure Reading where
  tokens : List Token
  anchors : List (List Char × Node) := []
  handles : List (List Char × List Char) := []

/-- A step in reading tokens. -/
abbrev Read := StateT Reading Option

/-- The next token. -/
def peek : Read (Option Token) := do
  return (← get).tokens.head?

/-- Goes behind the next token. -/
def skip : Read Unit :=
  modify fun r => { r with tokens := r.tokens.tail }

/-- Goes behind a token if it is the next one, and says whether it is. -/
def accept (t : Token) : Read Bool := do
  if (← peek) == some t then
    skip
    return true
  else return false

/-- The next token is one of these. -/
def at? (ts : List Token) : Read Bool := do
  return (← peek).any ts.contains

/-- A node, or nothing if one of the tokens comes next. -/
def unlessAt (ts : List Token) (part : Read Node) : Read Node := do
  if ← at? ts then return nothing else part

/-- The items of a block list behind its start. -/
def blockItems (part : Read Node) : Nat → Read (List Node)
  | 0 => failure
  | fuel + 1 => do
    if ← accept .blockItem then
      let item ← unlessAt [.blockItem, .blockEnd] part
      return item :: (← blockItems part fuel)
    else if ← accept .blockEnd then return []
    else failure

/-- The items of a list that is not indented further than the mapping around it. -/
def looseItems (part : Read Node) : Nat → Read (List Node)
  | 0 => failure
  | fuel + 1 => do
    if ← accept .blockItem then
      let item ← unlessAt [.blockItem, .key, .value, .blockEnd] part
      return item :: (← looseItems part fuel)
    else return []

/-- The pairs of a block mapping behind its start. -/
def blockPairs (part : Read Node) : Nat → Read (List (Node × Node))
  | 0 => failure
  | fuel + 1 => do
    let ends := [Token.key, .value, .blockEnd]
    if ← accept .key then
      let k ← unlessAt ends part
      let v ← if ← accept .value then unlessAt ends part else pure nothing
      return (k, v) :: (← blockPairs part fuel)
    else if ← accept .blockEnd then return []
    else failure

/-- A pair in brackets behind the mark of its key; the tokens end a value. -/
def flowPair (part : Read Node) (ends : List Token) : Read (Node × Node) := do
  let k ← unlessAt (.value :: ends) part
  let v ← if ← accept .value then unlessAt ends part else pure nothing
  return (k, v)

/-- The items of a list in brackets. A pair is a mapping of its own. -/
def flowItems (part : Read Node) : Nat → Bool → Read (List Node)
  | 0, _ => failure
  | fuel + 1, first => do
    if ← accept .flowListEnd then return []
    if !first then
      if !(← accept .flowItem) then failure
      if ← accept .flowListEnd then return []
    if ← accept .key then
      let pair ← flowPair part [.flowItem, .flowListEnd]
      return map .map [pair] :: (← flowItems part fuel false)
    else
      let item ← part
      return item :: (← flowItems part fuel false)

/-- The pairs of a mapping in brackets. A node without a colon is a key with no value. -/
def flowPairs (part : Read Node) : Nat → Bool → Read (List (Node × Node))
  | 0, _ => failure
  | fuel + 1, first => do
    if ← accept .flowMapEnd then return []
    if !first then
      if !(← accept .flowItem) then failure
      if ← accept .flowMapEnd then return []
    if ← accept .key then
      let pair ← flowPair part [.flowItem, .flowMapEnd]
      return pair :: (← flowPairs part fuel false)
    else
      let k ← part
      return (k, nothing) :: (← flowPairs part fuel false)

/-- The name of an anchor that comes next. -/
def anchor? : Read (Option (List Char)) := do
  match ← peek with
  | some (.anchor name) =>
    skip
    return some name
  | _ => return none

/-- The address of a tag that comes next. -/
def address? : Read (Option (List Char)) := do
  match ← peek with
  | some (.tag handle suffix) =>
    skip
    match handle with
    | none => return some suffix
    | some h =>
      match (← get).handles.lookup h with
      | some address => return some (address ++ suffix)
      | none => failure
  | _ => return none

/-- The anchor and the tag in front of a node, in either order. -/
def properties : Read (Option (List Char) × Option (List Char)) := do
  match ← anchor? with
  | some name => return (some name, ← address?)
  | none =>
    let address ← address?
    if address.isSome then return (← anchor?, address) else return (none, none)

/-- The type of a scalar with an address, if it has one. -/
def scalarTag (address : Option (List Char)) (plain : Bool) (text : List Char) : Tag :=
  match address with
  | none => if plain then .ofPlain text else .text
  | some a => if a == ['!'] then .ofPlain text else .ofAddress a

/-- The type of a collection with an address, if it has one. -/
def collectionTag (address : Option (List Char)) (standard : Tag) : Tag :=
  match address with
  | none => standard
  | some a => if a == ['!'] then standard else .ofAddress a

/-- Which nodes can stand at a place. -/
inductive Form where
  /-- Inside of brackets. -/
  | flow
  /-- Outside of brackets. -/
  | block
  /-- As a key or a value of a block mapping, where a list need not be indented. -/
  | entry
deriving DecidableEq

/-- What stands behind the anchor and the tag of a node. -/
def content (fuel : Nat) (part : Form → Read Node) (form : Form) (bare : Bool) (address : Option (List Char)) :
    Read Node := do
  match ← peek with
  | some .blockItem =>
    if form == .entry then return list (collectionTag address .list) (← looseItems (part .block) fuel)
    else empty
  | some (.scalar text plain) =>
    skip
    return scalar (scalarTag address plain text) text
  | some .flowListStart =>
    skip
    return list (collectionTag address .list) (← flowItems (part .flow) fuel true)
  | some .flowMapStart =>
    skip
    return map (collectionTag address .map) (← flowPairs (part .flow) fuel true)
  | some .blockListStart =>
    if form == .flow then empty
    else
      skip
      return list (collectionTag address .list) (← blockItems (part .block) fuel)
  | some .blockMapStart =>
    if form == .flow then empty
    else
      skip
      return map (collectionTag address .map) (← blockPairs (part .entry) fuel)
  | _ => empty
where
  /-- Nothing, which needs an anchor or a tag in front of it. -/
  empty : Read Node :=
    if bare then failure else pure (scalar (scalarTag address true []) [])

/-- A node. -/
def read : Nat → Form → Read Node
  | 0, _ => failure
  | fuel + 1, form => do
    if let some (.alias name) ← peek then
      skip
      match (← get).anchors.lookup name with
      | some node => return node
      | none => failure
    else
      let (anchor, address) ← properties
      let node ← content (fuel + 1) (read fuel) form (anchor.isNone && address.isNone) address
      match anchor with
      | none => return node
      | some name =>
        if ((← get).anchors.lookup name).isSome then failure
        modify fun r => { r with anchors := (name, node) :: r.anchors }
        return node

/-- The addresses of the handles if nothing else is said. -/
def standardHandles : List (List Char × List Char) :=
  [(['!'], ['!']), (['!', '!'], Tag.standardAddress)]

/-- The directives in front of a document. -/
def directives : Nat → Bool → Read Unit
  | 0, _ => failure
  | fuel + 1, versioned => do
    match ← peek with
    | some (.directive d) =>
      skip
      match d with
      | .version major => if versioned || major != 1 then failure else directives fuel true
      | .tag handle target =>
        if ((← get).handles.lookup handle).isSome then failure
        modify fun r => { r with handles := (handle, target) :: r.handles }
        directives fuel versioned
      | .unknown => directives fuel versioned
    | _ => modify fun r => { r with handles := r.handles ++ standardHandles }

/-- Goes behind the marks that end a document, and to the end. -/
def finish : Nat → Read Unit
  | 0 => failure
  | fuel + 1 => do
    if ← accept .documentEnd then finish fuel
    else if (← peek).isSome then failure

/-- A directive comes next. -/
def atDirective : Read Bool := do
  match ← peek with
  | some (.directive _) => return true
  | _ => return false

/-- The only document, if there is one. -/
def document (fuel : Nat) : Read (Option Node) := do
  if (← peek).isNone then return none
  let explicit := (← atDirective) || (← at? [.documentStart])
  directives fuel false
  if explicit then
    if !(← accept .documentStart) then failure
  let absent := explicit && ((← peek).isNone || (← atDirective) || (← at? [.documentStart, .documentEnd]))
  let node ← if absent then pure nothing else read fuel .block
  finish fuel
  return some node

/-- The only document in a row of tokens, if there is one; `none` if they are malformed. -/
def ofTokens? (tokens : List Token) : Option (Option Node) :=
  (document (tokens.length + 2) |>.run { tokens }).map Prod.fst

end Node

end RiskGauge.Yaml
