import RiskGauge.Script.ClassBody
import RiskGauge.Script.Markup

/-!
# Expressions

Operators are read one after the other without regard to how strongly they bind: what an expression
contains does not depend on it. Calls, accesses to properties and functions are told apart.
-/

namespace RiskGauge.Script

variable (parts : Parts)

/-! ### Literals with parts -/

/-- A member of an object literal. -/
def objectMember : Reader SyntaxTree := do
  let start ← nextOffset
  if ← accept "..." then node .other start [← parts (.assignment {})]
  else
    let _ ← many (memberWord ["async", "get", "set", "static", "readonly"])
    let _ ← accept "*"
    let key ← memberName parts
    let _ ← accept "?"
    let text ← ahead
    if text.head? == some '(' || text.head? == some '<' then
      node .other start (key :: (← methodRest parts))
    else if ← accept ":" then node .other start [key, ← parts (.assignment {})]
    else node .other start (key :: (← initializer parts))

/-- An element of a list. -/
def listItem : Reader SyntaxTree := do
  let start ← nextOffset
  let _ ← accept "..."
  node .other start [← parts (.assignment {})]

/-- An expression between parentheses. -/
def parenthesized : Reader SyntaxTree := do
  let start ← nextOffset
  sign "("
  let inner ← parts (.expression {})
  let type ← annotation parts
  sign ")"
  node .other start (inner :: type)

/-! ### Operands -/

/-- What stands behind `new`: the constructor, type arguments and arguments. -/
def construct (simple : Reader SyntaxTree) : Reader SyntaxTree := do
  let start ← nextOffset
  word "new"
  let first ← nextOffset
  if ← startsWith "." then
    sign "."
    let _ ← anyWord .other
    node .other start []
  else
    let root ← if (← wordAhead) == "new" then parts .construct else simple
    let tails ← many do
      if ← startsWith "[" then
        sign "["
        let index ← parts (.expression {})
        sign "]"
        return index
      else if ← startsWith "!" then
        sign "!"
        node .other first []
      else
        sign "."
        let _ ← accept "#"
        anyWord .other
    let types ← maybe (typeArguments parts)
    let args ← if ← startsWith "(" then pure [← arguments parts] else pure []
    node .other start (root :: tails ++ types ++ args)

/-- An operand without operators, calls and accesses. -/
def simpleOperand : Reader SyntaxTree := do
  let grammar ← read
  match ← ahead with
  | '(' :: _ => parenthesized parts
  | '[' :: _ => bracketed "[" "]" (listItem parts)
  | '\x7b' :: _ => bracketed "\x7b" "\x7d" (objectMember parts)
  | '"' :: _ | '\'' :: _ => quoted
  | '`' :: _ => template (parts (.expression {}))
  | '/' :: _ => slashed
  | '#' :: _ => memberName parts
  | '@' :: _ => classExpression parts
  | '<' :: _ => do
    if grammar == .tsx then parts .element
    else
      let start ← nextOffset
      let types ← typeArguments parts
      node .other start [types, ← parts .operand]
  | _ =>
    let (first, second) ← wordsAhead
    match first with
    | "" => number
    | "function" => functionExpression parts
    | "async" => if second == "function" then functionExpression parts else name
    | "class" => classExpression parts
    | "new" => parts .construct
    | "this" | "super" | "null" | "true" | "false" | "undefined" => anyWord .other
    | "import" => do
      let start ← nextOffset
      word "import"
      if ← startsWith "." then
        sign "."
        let _ ← anyWord .other
      node .other start []
    | _ => name

/-- A call. -/
def callOf (start : Nat) (callee : SyntaxTree) (rest : List SyntaxTree) : Reader SyntaxTree :=
  node .call start (callee.withRole .callee :: rest)

/-- An access to a property behind its dot; a private name is not a property name. -/
def memberOf (start : Nat) (object : SyntaxTree) : Reader SyntaxTree := do
  let first ← nextOffset
  if ← accept "#" then
    let _ ← anyWord .other
    let own ← node .other first []
    node .member start [object, own.withRole .property]
  else
    let own ← anyWord .propertyName
    node .member start [object, own.withRole .property]

/-- Arguments between parentheses, or a template. -/
def callArguments : Reader SyntaxTree := do
  if ← startsWith "`" then template (parts (.expression {})) else arguments parts

/-- Type arguments of a call. Without a call they count where an expression cannot go on behind them. -/
def genericLink (start : Nat) (t : SyntaxTree) : Reader SyntaxTree := do
  let types ← typeArguments parts
  match ← ahead with
  | '(' :: _ | '`' :: _ => callOf start t [types, ← callArguments parts]
  | [] => node .other start [t, types]
  | c :: _ =>
    if ")],;:\x7d".toList.contains c || (← lineBreakAhead) then node .other start [t, types] else refuse

/-- One more call, access or sign behind an operand. -/
def link (start : Nat) (t : SyntaxTree) : Reader SyntaxTree := do
  let broken ← lineBreakAhead
  match ← ahead with
  | '?' :: '.' :: c :: _ => do
    if c.isDigit then refuse
    sign "?."
    match ← ahead with
    | '(' :: _ => callOf start t [← arguments parts]
    | '<' :: _ => do
      let types ← typeArguments parts
      callOf start t [types, ← callArguments parts]
    | '[' :: _ => do
      sign "["
      let index ← parts (.expression {})
      sign "]"
      node .other start [t, index]
    | '`' :: _ => callOf start t [← callArguments parts]
    | _ => memberOf start t
  | '.' :: '.' :: _ => refuse
  | '.' :: _ => do
    sign "."
    memberOf start t
  | '[' :: _ => do
    sign "["
    let index ← parts (.expression {})
    sign "]"
    node .other start [t, index]
  | '(' :: _ | '`' :: _ => callOf start t [← callArguments parts]
  | '<' :: _ => genericLink parts start t
  | '!' :: '=' :: _ => refuse
  | '!' :: _ => if broken then refuse else do
    sign "!"
    node .other start [t]
  | '+' :: '+' :: _ => if broken then refuse else do
    sign "++"
    node .other start [t]
  | '-' :: '-' :: _ => if broken then refuse else do
    sign "--"
    node .other start [t]
  | _ => refuse

/-- All calls and accesses behind an operand, at most `n` of them. -/
def links (start : Nat) : Nat → SyntaxTree → Reader SyntaxTree
  | 0, t => return t
  | n + 1, t => do
    match ← optional (link parts start t) with
    | some next => links start n next
    | none => return t

/-- Words and signs in front of an operand. -/
def frontSign : Reader Unit := do
  match ← ahead with
  | '+' :: '+' :: _ => sign "++"
  | '-' :: '-' :: _ => sign "--"
  | c :: _ =>
    if "+-!~".toList.contains c then sign (String.singleton c)
    else
      let w ← wordAhead
      if ["typeof", "void", "delete", "await"].contains w then word w else refuse
  | [] => refuse

/-- An operand with the signs in front of it and the calls and accesses behind it. -/
def operand : Reader SyntaxTree := do
  let start ← nextOffset
  match ← optional frontSign with
  | some _ => node .other start [← parts .operand]
  | none => links parts start (← left) (← simpleOperand parts)

/-! ### Operators -/

/-- Operators between operands, longer ones before those they begin with. -/
def operators : List String :=
  [">>>", "===", "!==", "**", "<<", ">>", "<=", ">=", "==", "!=", "&&", "||", "??", "+", "-", "*", "/", "%",
    "<", ">", "&", "|", "^"]

/-- Operators that assign, longer ones before those they begin with. -/
def assignments : List String :=
  [">>>=", "**=", "<<=", ">>=", "&&=", "||=", "??=", "+=", "-=", "*=", "/=", "%=", "&=", "|=", "^=", "="]

/-- Takes an assignment operator. -/
def assignmentSign : Reader Unit := do
  let text ← ahead
  if "==".toList.isPrefixOf text || "=>".toList.isPrefixOf text then refuse
  match assignments.find? (·.toList.isPrefixOf text) with
  | some s => sign s
  | none => refuse

/-- An operator with its right side. -/
def operation (mode : Mode) : Reader SyntaxTree := do
  let text ← ahead
  if "++".toList.isPrefixOf text || "--".toList.isPrefixOf text then refuse
  if (assignments.find? (·.toList.isPrefixOf text)).any
      fun s => !"==".toList.isPrefixOf text && s != "=" then refuse
  match operators.find? (·.toList.isPrefixOf text) with
  | some s =>
    sign s
    parts .operand
  | none =>
    match ← wordAhead with
    | "instanceof" =>
      word "instanceof"
      parts .operand
    | "in" =>
      unless mode.allowIn do refuse
      word "in"
      parts .operand
    | "as" =>
      word "as"
      if (← wordAhead) == "const" then anyWord .other else parts .type
    | "satisfies" =>
      word "satisfies"
      parts .type
    | _ => refuse

/-- Operands with operators in between. -/
def operations (mode : Mode) : Reader SyntaxTree := do
  let start ← nextOffset
  let first ← parts .operand
  let others ← many (operation parts mode)
  if others.isEmpty then return first else node .other start (first :: others)

/-- What follows a condition behind its question mark. The first side is read a second time without types
of results if no colon is left. -/
def choice (mode : Mode) : Reader (List SyntaxTree) := do
  let text ← ahead
  if "??".toList.isPrefixOf text then refuse
  sign "?"
  let sides (typed : Bool) : Reader (List SyntaxTree) := do
    let yes ← parts (.assignment { typedArrows := typed })
    sign ":"
    return [yes, ← parts (.assignment mode)]
  either (sides true) (sides false)

/-! ### Arrow functions -/

/-- The body of an arrow function. -/
def arrowBody (mode : Mode) : Reader SyntaxTree := do
  sign "=>"
  if ← startsWith "\x7b" then parts .block else parts (.assignment mode)

/-- An arrow function. -/
def arrowFunction (mode : Mode) : Reader SyntaxTree := do
  let start ← nextOffset
  let _ ← optional do
    word "async"
    if "=>".toList.isPrefixOf (← ahead) then refuse
  match ← ahead with
  | '(' :: _ | '<' :: _ =>
    let types ← maybe (typeParameters parts)
    let params ← parameters parts
    let result ← if mode.typedArrows then annotation parts else pure []
    let body ← arrowBody parts mode
    node .arrowFunction start (types ++ params :: result ++ [body])
  | _ =>
    let param ← name
    let body ← arrowBody parts mode
    node .arrowFunction start [param, body]

/-! ### Whole expressions -/

/-- A value that a generator gives away. -/
def yielded (mode : Mode) : Reader SyntaxTree := do
  let start ← nextOffset
  word "yield"
  let _ ← accept "*"
  let broken ← lineBreakAhead
  let inner ← if broken then pure [] else maybe (parts (.assignment mode))
  node .other start inner

/-- An expression without commas. -/
def assignment (mode : Mode) : Reader SyntaxTree := do
  let start ← nextOffset
  let plain : Reader SyntaxTree := do
    let left ← operations parts mode
    match ← optional (choice parts mode) with
    | some sides => node .other start (left :: sides)
    | none =>
      match ← optional assignmentSign with
      | some _ => node .other start [left, ← parts (.assignment mode)]
      | none => return left
  match ← wordAhead with
  | "yield" => yielded parts mode
  | _ => either (arrowFunction parts mode) plain

/-- Expressions with commas in between. -/
def expression (mode : Mode) : Reader SyntaxTree := do
  let start ← nextOffset
  let items ← separated "," (parts (.assignment mode))
  match items with
  | [single] => return single
  | _ => node .other start items

end RiskGauge.Script
