import RiskGauge.Script.Types

/-!
# Functions and classes
-/

namespace RiskGauge.Script

variable (parts : Parts)

/-- A method behind its name: what it takes and gives, and its body if it has one. -/
def methodRest : Reader (List SyntaxTree) := do
  let signature ← callSignature parts
  if ← startsWith "\x7b" then return signature ++ [← parts .block]
  return signature

/-- A field or method of a class. -/
def classMember : Reader SyntaxTree := do
  let start ← nextOffset
  let decorators ← many (decorator parts)
  let behind ← behindWord
  if (← wordAhead) == "static" && behind.head? == some '\x7b' then
    word "static"
    node .other start (decorators ++ [← parts .block])
  else
    let _ ← many (memberWord ["declare", "public", "private", "protected", "static", "abstract", "override",
      "readonly", "accessor", "async", "get", "set"])
    let _ ← accept "*"
    either
      (do
        let index ← indexMember parts
        node .other start (decorators ++ [index]))
      (do
        let key ← memberName parts
        let _ ← either (sign "?") (either (sign "!") (pure ()))
        let text ← ahead
        if text.head? == some '(' || text.head? == some '<' then
          node .other start (decorators ++ key :: (← methodRest parts))
        else
          let type ← annotation parts
          node .other start (decorators ++ key :: type ++ (← initializer parts)))

/-- The members of a class between braces. -/
def classBody : Reader SyntaxTree := do
  let start ← nextOffset
  sign "\x7b"
  let members ← many do
    let _ ← many (either (sign ";") (sign ","))
    classMember parts
  let _ ← many (either (sign ";") (sign ","))
  sign "\x7d"
  node .other start members

/-- What a class extends and implements. -/
def heritage : Reader (List SyntaxTree) := do
  let bases ← if ← acceptWord "extends" then
      separated "," do
        let start ← nextOffset
        let base ← parts .operand
        node .other start (base :: (← maybe (typeArguments parts)))
    else pure []
  let interfaces ← if ← acceptWord "implements" then separated "," (parts .type) else pure []
  return bases ++ interfaces

/-- A class behind its keyword, without its name. -/
def classRest : Reader (List SyntaxTree) := do
  let types ← maybe (typeParameters parts)
  let above ← heritage parts
  return types ++ above ++ [← classBody parts]

/-- A class as an expression. -/
def classExpression : Reader SyntaxTree := do
  let start ← nextOffset
  let decorators ← many (decorator parts)
  word "class"
  let own ← if (← wordAhead) == "implements" then pure [] else maybe name
  node .other start (decorators ++ own ++ (← classRest parts))

/-- The words in front of a function: whether it is a generator. -/
def functionWords : Reader Bool := do
  let (first, second) ← wordsAhead
  if first == "async" && second == "function" then word "async"
  word "function"
  accept "*"

/-- A function as an expression. -/
def functionExpression : Reader SyntaxTree := do
  let start ← nextOffset
  let generator ← functionWords
  let own ← maybe (anyWord .identifier)
  let signature ← callSignature parts
  let body ← parts .block
  node (if generator then .generatorFunction else .functionExpression) start (own ++ signature ++ [body])

end RiskGauge.Script
