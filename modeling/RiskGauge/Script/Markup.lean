import RiskGauge.Script.Binding

/-!
# Elements in angle brackets
-/

namespace RiskGauge.Script

variable (parts : Parts)

/-- Characters in the names of elements and attributes. -/
def isTagPart (c : Char) : Bool :=
  isNamePart c || c == '-' || c == '.' || c == ':'

/-- The name of an element or attribute. -/
def tagName : Reader SyntaxTree := do
  match ← ahead with
  | c :: rest => if isNameStart c then literal ((rest.takeWhile isTagPart).length + 1) else refuse
  | [] => refuse

/-- A text between quotes in which nothing is escaped. -/
def plainQuoted : Reader SyntaxTree := do
  match ← ahead with
  | c :: rest =>
    if (c == '"' || c == '\'') && rest.contains c then literal ((rest.takeWhile (· != c)).length + 2)
    else refuse
  | [] => refuse

/-- An expression between braces, which may be left out. -/
def embedded : Reader SyntaxTree := do
  let start ← nextOffset
  sign "\x7b"
  let _ ← accept "..."
  let inner ← if ← startsWith "\x7d" then pure [] else pure [← parts (.expression {})]
  sign "\x7d"
  node .other start inner

/-- An attribute of an element. -/
def tagAttribute : Reader SyntaxTree := do
  if ← startsWith "\x7b" then embedded parts
  else
    let start ← nextOffset
    let own ← tagName
    if ← accept "=" then
      let value ← either plainQuoted (either (embedded parts) (parts .element))
      node .other start [own, value]
    else node .other start [own]

/-- The content of an element, at most `n` pieces, up to the closing tag. -/
def content : Nat → Reader (List SyntaxTree)
  | 0 => refuse
  | n + 1 => do
    let text := (← get).rest.takeWhile fun c => c != '<' && c != '\x7b'
    modify (Place.advance text.length)
    match (← get).rest with
    | '<' :: more =>
      if (more.dropWhile isGap).head? == some '/' then return []
      let inner ← parts .element
      return inner :: (← content n)
    | '\x7b' :: _ =>
      let inner ← embedded parts
      return inner :: (← content n)
    | _ => refuse

/-- A closing tag. -/
def closingTag : Reader Unit := do
  sign "<"
  sign "/"
  let _ ← optional tagName
  sign ">"

/-- An element with its attributes and content. -/
def element : Reader SyntaxTree := do
  let start ← nextOffset
  sign "<"
  if ← accept ">" then
    let inner ← content parts (← left)
    closingTag
    node .other start inner
  else
    let own ← tagName
    let types ← maybe (typeArguments parts)
    let attributes ← many (tagAttribute parts)
    if ← accept "/" then
      sign ">"
      node .other start (own :: types ++ attributes)
    else
      sign ">"
      let inner ← content parts (← left)
      closingTag
      node .other start (own :: types ++ attributes ++ inner)

end RiskGauge.Script
