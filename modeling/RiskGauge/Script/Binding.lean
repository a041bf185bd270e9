import RiskGauge.Script.Literal

/-!
# Bindings, parameters and arguments
-/

namespace RiskGauge.Script

variable (parts : Parts)

/-- The type behind a colon, if there is one. -/
def annotation : Reader (List SyntaxTree) := do
  if ← accept ":" then return [← parts .type] else return []

/-- The value behind an equals sign, if there is one. -/
def initializer : Reader (List SyntaxTree) := do
  match ← ahead with
  | '=' :: '=' :: _ => return []
  | '=' :: '>' :: _ => return []
  | '=' :: _ =>
    sign "="
    return [← parts (.assignment {})]
  | _ => return []

/-- Type arguments between angle brackets. -/
def typeArguments : Reader SyntaxTree :=
  bracketed "<" ">" (parts .type)

/-- A type parameter: words for its variance, its name, its bound, and its default. -/
def typeParameter : Reader SyntaxTree := do
  let start ← nextOffset
  let _ ← many do
    let (first, second) ← wordsAhead
    if ["const", "in", "out"].contains first && !second.isEmpty && second != "extends" then word first
    else refuse
  let own ← name
  let bound ← if ← acceptWord "extends" then pure [← parts .type] else pure []
  let standard ← if ← accept "=" then pure [← parts .type] else pure []
  node .other start (own :: bound ++ standard)

/-- Type parameters between angle brackets. -/
def typeParameters : Reader SyntaxTree :=
  bracketed "<" ">" (typeParameter parts)

/-- The arguments of a call. -/
def arguments : Reader SyntaxTree :=
  bracketed "(" ")" do
    let _ ← accept "..."
    parts (.assignment {})

/-- A decorator: an expression between parentheses, or a name with properties and possibly arguments. -/
def decorator : Reader SyntaxTree := do
  let start ← nextOffset
  sign "@"
  if ← startsWith "(" then
    sign "("
    let inner ← parts (.expression {})
    sign ")"
    node .other start [inner]
  else
    let first ← nextOffset
    let root ← name
    let tails ← many do
      sign "."
      anyWord .propertyName
    let callee :=
      tails.foldl (fun t tail => .node .plain .member ⟨first, tail.span.stop⟩ [t, tail.withRole .property]) root
    let types ← maybe (typeArguments parts)
    if ← startsWith "(" then
      let args ← arguments parts
      node .other start [← node .call first (callee.withRole .callee :: types ++ [args])]
    else node .other start (callee :: types)

/-- The name of a member: a word, a text, a number, a private name, or an expression between brackets. -/
def memberName : Reader SyntaxTree := do
  match ← ahead with
  | '[' :: _ =>
    let start ← nextOffset
    sign "["
    let inner ← parts (.assignment {})
    sign "]"
    node .other start [inner]
  | '#' :: _ =>
    let start ← nextOffset
    sign "#"
    let _ ← anyWord .other
    node .other start []
  | '"' :: _ | '\'' :: _ => quoted
  | _ => either (anyWord .propertyName) number

/-- A binding with a value to fall back on. -/
def bindingItem : Reader SyntaxTree := do
  let start ← nextOffset
  let _ ← accept "..."
  let inner ← parts .binding
  node .other start (inner :: (← initializer parts))

/-- A property in a binding between braces. -/
def bindingMember : Reader SyntaxTree := do
  if ← startsWith "..." then bindingItem parts
  else
    let start ← nextOffset
    let key ← memberName parts
    if ← accept ":" then node .other start [key, ← bindingItem parts]
    else node .other start (key :: (← initializer parts))

/-- What a value is bound to: a name, or bindings between brackets or braces. -/
def binding : Reader SyntaxTree := do
  match ← ahead with
  | '\x7b' :: _ => bracketed "\x7b" "\x7d" (bindingMember parts)
  | '[' :: _ => bracketed "[" "]" (bindingItem parts)
  | _ => name

/-- A parameter: decorators, words for its access, its binding, its type and its default. -/
def parameter : Reader SyntaxTree := do
  let start ← nextOffset
  let decorators ← many (decorator parts)
  let _ ← many do
    let (first, second) ← wordsAhead
    let behind ← behindWord
    let bracket := behind.head? == some '\x7b' || behind.head? == some '['
    if ["public", "private", "protected", "override", "readonly"].contains first
        && (!second.isEmpty || bracket) then word first
    else refuse
  let _ ← accept "..."
  let inner ← either (do word "this"; node .other start []) (parts .binding)
  let _ ← accept "?"
  let type ← annotation parts
  node .other start (decorators ++ inner :: type ++ (← initializer parts))

/-- Parameters between parentheses. -/
def parameters : Reader SyntaxTree :=
  bracketed "(" ")" (parameter parts)

/-- Type parameters, parameters and the type of the result. -/
def callSignature : Reader (List SyntaxTree) := do
  let types ← maybe (typeParameters parts)
  let params ← parameters parts
  return types ++ params :: (← annotation parts)

end RiskGauge.Script
