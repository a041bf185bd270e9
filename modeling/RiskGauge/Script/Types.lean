import RiskGauge.Script.Binding

/-!
# Types

A type is read for its extent and for the expressions inside of it.
-/

namespace RiskGauge.Script

variable (parts : Parts)

/-- The parts of a member of an object type behind its name: a call signature or a type. -/
def memberRest : Reader (List SyntaxTree) := do
  let _ ← accept "?"
  let text ← ahead
  if text.head? == some '(' || text.head? == some '<' then callSignature parts else annotation parts

/-- A member between brackets: an index signature or a mapped type. -/
def indexMember : Reader SyntaxTree := do
  let start ← nextOffset
  sign "["
  let key ← name
  let inner ←
    if ← acceptWord "in" then do
      let source ← parts .type
      let renamed ← if ← acceptWord "as" then pure [← parts .type] else pure []
      pure (source :: renamed)
    else do
      sign ":"
      pure [← parts .type]
  sign "]"
  let _ ← either (sign "+?") (either (sign "-?") (either (sign "?") (pure ())))
  node .other start (key :: inner ++ (← annotation parts))

/-- A word in front of the name of a member. -/
def memberWord (words : List String) : Reader Unit := do
  let w ← wordAhead
  if words.contains w then
    match ← behindWord with
    | c :: _ =>
      if isNameStart c || c.isDigit || "\"'[#*\\".toList.contains c || (c == '\x7b' && w == "static") then word w
      else refuse
    | [] => refuse
  else refuse

/-- A member of an object type. -/
def typeMember : Reader SyntaxTree := do
  let start ← nextOffset
  let text ← ahead
  if text.head? == some '(' || text.head? == some '<' then
    node .other start (← callSignature parts)
  else
    let behind ← behindWord
    if (← wordAhead) == "new" && (behind.head? == some '(' || behind.head? == some '<') then
      word "new"
      node .other start (← callSignature parts)
    else
      let _ ← either (sign "+") (either (sign "-") (pure ()))
      let _ ← many (memberWord ["readonly", "get", "set", "public", "private", "protected", "static", "async"])
      either (indexMember parts) do
        let key ← memberName parts
        node .other start (key :: (← memberRest parts))

/-- An object type between braces; its members end with commas, semicolons or lines. -/
def objectType : Reader SyntaxTree := do
  let start ← nextOffset
  sign "\x7b"
  let _ ← accept "|"
  let members ← many do
    let _ ← many (either (sign ",") (sign ";"))
    let member ← typeMember parts
    let _ ← many (either (sign ",") (sign ";"))
    return member
  let _ ← many (either (sign ",") (sign ";"))
  let _ ← accept "|"
  sign "\x7d"
  node .other start members

/-- A name with further names behind dots, and type arguments. -/
def typeName : Reader SyntaxTree := do
  let start ← nextOffset
  let root ← either name (do word "this"; node .other start [])
  let _ ← many do
    sign "."
    let _ ← accept "#"
    anyWord .other
  let types ← maybe (typeArguments parts)
  node .other start (root :: types)

/-- A module as a type: its name between parentheses, names behind dots, and type arguments. -/
def importedType : Reader SyntaxTree := do
  let start ← nextOffset
  word "import"
  let args ← arguments parts
  let _ ← many do
    sign "."
    anyWord .other
  let types ← maybe (typeArguments parts)
  node .other start (args :: types)

/-- The parameters and the result of a function type. -/
def functionType : Reader SyntaxTree := do
  let start ← nextOffset
  let types ← maybe (typeParameters parts)
  let params ← parameters parts
  sign "=>"
  node .other start (types ++ [params, ← parts .type])

/-- A member of a tuple, which may have a name. -/
def tupleMember : Reader SyntaxTree := do
  let start ← nextOffset
  let _ ← accept "..."
  either
    (do
      let own ← anyWord .other
      let _ ← accept "?"
      sign ":"
      node .other start [own, ← parts .type])
    (do
      let inner ← parts .type
      let _ ← accept "?"
      node .other start [inner])

/-- A type between parentheses. -/
def parenthesizedType : Reader SyntaxTree := do
  let start ← nextOffset
  sign "("
  let inner ← parts .type
  sign ")"
  node .other start [inner]

/-- A type without operators. -/
def simpleType : Reader SyntaxTree := do
  match ← ahead with
  | '(' :: _ => either (functionType parts) (parenthesizedType parts)
  | '<' :: _ => functionType parts
  | '\x7b' :: _ => objectType parts
  | '[' :: _ => bracketed "[" "]" (tupleMember parts)
  | '"' :: _ | '\'' :: _ => quoted
  | '`' :: _ => template (parts .type)
  | '-' :: _ => do
    sign "-"
    number
  | _ =>
    match ← wordAhead with
    | "import" => importedType parts
    | "true" | "false" | "null" | "void" | "const" | "this" | "super" =>
      either (do sign "this"; sign "."; typeName parts) (anyWord .other)
    | "typeof" => do
      word "typeof"
      either (importedType parts) (typeName parts)
    | "new" => do
      word "new"
      functionType parts
    | "abstract" =>
      either
        (do
          word "abstract"
          word "new"
          functionType parts)
        (typeName parts)
    | "" => number
    | _ => typeName parts

/-- The brackets behind a type: arrays and accesses to members. -/
def typeSuffixes (start : Nat) : Nat → SyntaxTree → Reader SyntaxTree
  | 0, t => return t
  | n + 1, t => do
    if ← lineBreakAhead then return t
    else if ← startsWith "[" then
      sign "["
      if ← accept "]" then typeSuffixes start n (← node .other start [t])
      else
        let index ← parts .type
        sign "]"
        typeSuffixes start n (← node .other start [t, index])
    else return t

/-- A type with the words in front of it and the brackets behind it. -/
def prefixedType : Reader SyntaxTree := do
  let start ← nextOffset
  let _ ← many do
    let w ← wordAhead
    let behind ← behindWord
    let typeFollows := match behind with
      | c :: _ => isNameStart c || c.isDigit || "([\x7b\"'`<-".toList.contains c
      | [] => false
    if ["keyof", "unique", "readonly"].contains w && typeFollows then word w else refuse
  let (first, second) ← wordsAhead
  if first == "infer" && !second.isEmpty then
    word "infer"
    let own ← name
    let bound ← maybe do
      word "extends"
      parts .type
    node .other start (own :: bound)
  else
    typeSuffixes parts start (← left) (← simpleType parts)

/-- Types with an operator in between, which may stand in front too. -/
def joinedTypes (operator : String) (p : Reader SyntaxTree) : Reader SyntaxTree := do
  let start ← nextOffset
  let _ ← accept operator
  let operatorAhead : Reader Unit := do
    if ← startsWith (operator ++ operator) then refuse
    if ← startsWith (operator ++ "=") then refuse
    sign operator
  let first ← p
  let others ← many do
    operatorAhead
    p
  node .other start (first :: others)

/-- A statement about a parameter: what it is, or that it is asserted. -/
def predicate : Reader SyntaxTree := do
  let start ← nextOffset
  let asserts ← optional do
    let (first, second) ← wordsAhead
    if first == "asserts" && !second.isEmpty && second != "is" && second != "extends" then word "asserts"
    else refuse
  let subject ← anyWord .other
  if ← acceptWord "is" then node .other start [subject, ← parts .type]
  else if asserts.isSome then node .other start [subject]
  else refuse

/-- A type: a predicate, or a union of intersections, which may be the condition of a choice. -/
def type : Reader SyntaxTree :=
  either (predicate parts) do
    let start ← nextOffset
    let subject ← joinedTypes "|" (joinedTypes "&" (prefixedType parts))
    let choice ← optional do
      word "extends"
      let bound ← parts .type
      sign "?"
      let yes ← parts .type
      sign ":"
      let no ← parts .type
      return [bound, yes, no]
    node .other start (subject :: choice.getD [])

end RiskGauge.Script
