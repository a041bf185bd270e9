import RiskGauge.Yaml.Token

/-!
# From layout to tokens

Outside of brackets the columns of a YAML text tell how its collections are nested. `Layout` keeps the columns
of the open collections while the text is read, and the tokens at which a key may have begun: a key is known
as such only when its colon comes, on the same line and at most `keyReach` characters on.
-/

namespace RiskGauge.Yaml

/-- A token that may begin a key. -/
structure KeyStart where
  /-- How many brackets are open. -/
  level : Nat
  /-- The number of tokens in front of it. -/
  token : Nat
  /-- At this place there can be nothing but a key. -/
  required : Bool
  index : Nat
  line : Nat
  column : Nat

/-- A text that was read in part. -/
structure Layout where
  position : Position
  /-- The tokens so far, last one first. -/
  tokens : List Token := []
  /-- How many brackets are open. -/
  level : Nat := 0
  /-- The column of the innermost block, or -1. -/
  indent : Int := -1
  /-- The columns of the blocks around it, innermost first. -/
  outer : List Int := []
  /-- A key may begin here. -/
  keyAllowed : Bool := true
  keys : List KeyStart := []

namespace Layout

/-- The most characters between the start of a key and its colon. -/
def keyReach : Nat := 1024

/-- The layout inside of brackets is free. -/
def inFlow (l : Layout) : Bool :=
  l.level != 0

/-- Adds a token. -/
def push (t : Token) (l : Layout) : Layout :=
  { l with tokens := t :: l.tokens }

/-- Puts a token in front of which there are `n` others. -/
def insert (n : Nat) (t : Token) (l : Layout) : Layout :=
  let behind := l.tokens.length - n
  { l with tokens := l.tokens.take behind ++ t :: l.tokens.drop behind }

/-- Moves on by a number of characters. -/
def advance (n : Nat) (l : Layout) : Layout :=
  { l with position := l.position.advance n }

/-- Forgets the key starts that are out of reach; fails if there had to be a key. -/
def dropStale? (l : Layout) : Option Layout :=
  let stale (k : KeyStart) : Bool := k.line != l.position.line || keyReach < l.position.index - k.index
  if l.keys.any fun k => stale k && k.required then none
  else some { l with keys := l.keys.filter (!stale ·) }

/-- Forgets the key start of this level; fails if there had to be a key. -/
def dropKey? (l : Layout) : Option Layout :=
  if l.keys.any fun k => k.level == l.level && k.required then none
  else some { l with keys := l.keys.filter (·.level != l.level) }

/-- Remembers this place as one where a key may begin. -/
def saveKey? (l : Layout) : Option Layout :=
  if l.keyAllowed then do
    let kept ← l.dropKey?
    let p := l.position
    let start := { level := l.level, token := l.tokens.length, required := !l.inFlow && l.indent == p.column,
                   index := p.index, line := p.line, column := p.column }
    return { kept with keys := start :: kept.keys }
  else some l

/-- Closes the blocks that are deeper than a column. -/
def closeBlocks (column : Int) (l : Layout) : Layout :=
  if l.inFlow then l
  else
    let rec go (indent : Int) (tokens : List Token) : List Int → Layout
      | [] => { l with indent, tokens, outer := [] }
      | next :: rest =>
        if column < indent then go next (.blockEnd :: tokens) rest
        else { l with indent, tokens, outer := next :: rest }
    go l.indent l.tokens l.outer

/-- Opens a block at a column, unless there is one; its token goes in front of `n` others. -/
def openBlock (column n : Nat) (t : Token) (l : Layout) : Layout :=
  if l.indent < column then { l.insert n t with indent := column, outer := l.indent :: l.outer } else l

/-- Goes on to the next token: over blanks, comments and line ends. -/
def skipBlanks : Nat → Layout → Layout
  | 0, l => l
  | fuel + 1, l =>
    let p := l.position
    let p := if p.index == 0 && p.head?.any (·.toNat == 0xFEFF) then p.next else p
    let p := p.skipComment
    match p.lineBreak? with
    | some (_, p) => skipBlanks fuel { l with position := p, keyAllowed := l.keyAllowed || !l.inFlow }
    | none => { l with position := p }

/-- A token that closes all blocks, such as the mark of a document. -/
def outermost? (l : Layout) : Option Layout :=
  ((l.closeBlocks (-1)).dropKey?).map ({ · with keyAllowed := false })

/-- An opening bracket. -/
def openFlow? (t : Token) (l : Layout) : Option Layout := do
  let l ← l.saveKey?
  return { (l.push t).advance 1 with level := l.level + 1, keyAllowed := true }

/-- A closing bracket; there has to be an open one. -/
def closeFlow? (t : Token) (l : Layout) : Option Layout := do
  let l ← l.dropKey?
  if l.level == 0 then none
  else return { (l.push t).advance 1 with level := l.level - 1, keyAllowed := false }

/-- A mark that stands in front of an item or a key. -/
def mark? (block : Option Token) (t : Token) (keyAllowed : Bool) (l : Layout) : Option Layout := do
  let l ←
    if l.inFlow then pure l
    else if l.keyAllowed then
      match block with
      | some b => pure (l.openBlock l.position.column l.tokens.length b)
      | none => pure l
    else none
  let l ← l.dropKey?
  return { (l.push t).advance 1 with keyAllowed }

/-- The colon between a key and its value. -/
def value? (l : Layout) : Option Layout :=
  match l.keys.find? (·.level == l.level) with
  | some k =>
    let l := { l with keys := l.keys.filter (·.level != l.level) }
    let l := l.insert k.token .key
    let l := if l.inFlow then l else l.openBlock k.column k.token .blockMapStart
    some { (l.push .value).advance 1 with keyAllowed := false }
  | none => l.mark? (some .blockMapStart) .value (!l.inFlow)

/-- A token that may begin a key and is read on its own. -/
def item? (read : Position → Option (Token × Position)) (l : Layout) : Option Layout := do
  let l ← l.saveKey?
  let (t, position) ← read l.position
  return { l.push t with position, keyAllowed := false }

/-- A block scalar. -/
def block? (folded : Bool) (l : Layout) : Option Layout := do
  let l ← l.dropKey?
  let (text, position) ← Block.read? folded (l.indent + 1).toNat l.position.next
  return { l.push (.scalar text false) with position, keyAllowed := true }

/-- A plain scalar can begin here. -/
def beginsPlain (l : Layout) : Bool :=
  match l.position.head? with
  | none => false
  | some c =>
    !(endsWord (some c) || "-?:,[]\x7b\x7d#&*!|>'\"%@`".toList.contains c) ||
      (!endsWord (l.position.peek? 1) && (c == '-' || (!l.inFlow && (c == '?' || c == ':'))))

/-- A plain scalar. -/
def plain? (l : Layout) : Option Layout := do
  if !l.beginsPlain then none
  let l ← l.saveKey?
  let (text, broken, position) := Plain.read l.inFlow (l.indent + 1).toNat l.position
  return { l.push (.scalar text true) with position, keyAllowed := broken }

/-- Reads the next token; `none` if there is no way to go on. The text is not at its end. -/
def token? (c : Char) (l : Layout) : Option Layout :=
  let p := l.position
  let apart := endsWord (p.peek? 1)
  if c == '%' && p.column == 0 then do
    let l ← l.outermost?
    let (t, position) ← Token.directive? p
    return { l.push t with position }
  else if (c == '-' || c == '.') && p.column == 0 && p.atDocumentMark then
    l.outermost?.map fun l => (l.push (if c == '-' then .documentStart else .documentEnd)).advance 3
  else
    match c with
    | '[' => l.openFlow? .flowListStart
    | '\x7b' => l.openFlow? .flowMapStart
    | ']' => l.closeFlow? .flowListEnd
    | '\x7d' => l.closeFlow? .flowMapEnd
    | ',' => do
      let l ← l.dropKey?
      return { (l.push .flowItem).advance 1 with keyAllowed := true }
    | '-' => if apart then l.mark? (some .blockListStart) .blockItem true else l.plain?
    | '?' => if l.inFlow || apart then l.mark? (some .blockMapStart) .key (!l.inFlow) else l.plain?
    | ':' => if l.inFlow || apart then l.value? else l.plain?
    | '*' => l.item? fun p => (Token.reference? p).map fun (name, p) => (.alias name, p)
    | '&' => l.item? fun p => (Token.reference? p).map fun (name, p) => (.anchor name, p)
    | '!' => l.item? Token.tag?
    | '|' => if l.inFlow then none else l.block? false
    | '>' => if l.inFlow then none else l.block? true
    | '\'' => l.item? fun p => (Quoted.read? false p).map fun (s, p) => (.scalar s false, p)
    | '"' => l.item? fun p => (Quoted.read? true p).map fun (s, p) => (.scalar s false, p)
    | _ => l.plain?

/-- Reads the rest of the text. -/
def finish? : Nat → Layout → Option (List Token)
  | 0, _ => none
  | fuel + 1, l => do
    let l ← (l.skipBlanks (l.position.rest.length + 1)).dropStale?
    let l := l.closeBlocks l.position.column
    match l.position.head? with
    | none => (l.closeBlocks (-1)).dropKey?.map (·.tokens.reverse)
    | some c => finish? fuel (← l.token? c)

end Layout

/-- A character that can stand in a YAML text. -/
def isPrintable (c : Char) : Bool :=
  let n := c.toNat
  n == 9 || n == 10 || n == 13 || (0x20 ≤ n && n ≤ 0x7E) || n == 0x85 ||
    (0xA0 ≤ n && n != 0xFFFE && n != 0xFFFF)

/-- The tokens of a text; `none` if it is malformed. -/
def tokens? (text : List Char) : Option (List Token) :=
  if text.all isPrintable then Layout.finish? (text.length + 2) { position := { rest := text } } else none

end RiskGauge.Yaml
