import RiskGauge.Script.Expression

/-!
# Statements and declarations
-/

namespace RiskGauge.Script

variable (parts : Parts)

/-! ### Declarations -/

/-- A function with a name. Without a body it declares a form of call only. -/
def functionDeclaration : Reader SyntaxTree := do
  let start ← nextOffset
  let generator ← functionWords
  let own ← name
  let signature ← callSignature parts
  let pieces := own.withRole .name :: signature
  if ← startsWith "\x7b" then
    let body ← parts .block
    endDeclaration
    node (if generator then .generatorDeclaration else .functionDeclaration) start (pieces ++ [body])
  else
    endStatement false
    node .other start pieces

/-- A class with a name. -/
def classDeclaration : Reader SyntaxTree := do
  let start ← nextOffset
  let decorators ← many (decorator parts)
  let abstract_ ← acceptWord "abstract"
  word "class"
  if (← wordAhead) == "implements" then refuse
  let own ← name
  let rest ← classRest parts
  let pieces := decorators ++ own.withRole .name :: rest
  if abstract_ then node .abstractClassDeclaration start pieces
  else
    endDeclaration
    node .classDeclaration start pieces

/-- An interface. -/
def interfaceDeclaration : Reader SyntaxTree := do
  let start ← nextOffset
  word "interface"
  let own ← name
  let types ← maybe (typeParameters parts)
  let bases ← if ← acceptWord "extends" then separated "," (parts .type) else pure []
  let body ← objectType parts
  node .interfaceDeclaration start (own.withRole .name :: types ++ bases ++ [body])

/-- A name for a type. -/
def typeAlias : Reader SyntaxTree := do
  let start ← nextOffset
  word "type"
  let own ← name
  let types ← maybe (typeParameters parts)
  sign "="
  let value ← parts .type
  endStatement false
  node .typeAlias start (own.withRole .name :: types ++ [value])

/-- A binding of a statement with its type and its value. -/
def declarator (mode : Mode) : Reader SyntaxTree := do
  let start ← nextOffset
  let own ← parts .binding
  let _ ← accept "!"
  let type ← annotation parts
  let text ← ahead
  let value ← if text.head? == some '=' then do
      sign "="
      let v ← parts (.assignment mode)
      pure [v.withRole .value]
    else pure []
  node .declarator start (own.withRole .name :: type ++ value)

/-- The kind of a statement that begins with a word for bindings. -/
def bindingKind? : String → Option NodeKind
  | "let" | "const" => some .lexicalDeclaration
  | "var" => some .variableDeclaration
  | _ => none

/-- A statement of bindings. -/
def bindings (mode : Mode) : Reader SyntaxTree := do
  let start ← nextOffset
  let w ← wordAhead
  match bindingKind? w with
  | none => refuse
  | some kind =>
    word w
    let items ← separated "," (declarator parts mode)
    endStatement ((items.getLast?.bind (·.child? .value)).isSome)
    node kind start items

/-- An enumeration. -/
def enumeration : Reader SyntaxTree := do
  let start ← nextOffset
  let _ ← acceptWord "const"
  word "enum"
  let _ ← name
  let body ← bracketed "\x7b" "\x7d" do
    let first ← nextOffset
    let key ← memberName parts
    node .other first (key :: (← initializer parts))
  node .other start [body]

/-- A namespace or module with its statements. -/
def namespaceDeclaration : Reader SyntaxTree := do
  let start ← nextOffset
  let w ← wordAhead
  unless ["namespace", "module", "global"].contains w do refuse
  word w
  if w == "global" then node .other start [← parts .block]
  else
    let _ ← either quoted do
      let own ← name
      let _ ← many do
        sign "."
        anyWord .other
      return own
    let body ← if ← startsWith "\x7b" then pure [← parts .block] else do
      if w == "namespace" then refuse
      endStatement false
      pure []
    node .other start body

/-- A declaration. -/
def declaration : Reader SyntaxTree := do
  let (first, second) ← wordsAhead
  match first with
  | "function" => functionDeclaration parts
  | "async" => if second == "function" then functionDeclaration parts else refuse
  | "class" => classDeclaration parts
  | "abstract" => if second == "class" then classDeclaration parts else refuse
  | "interface" => interfaceDeclaration parts
  | "type" => typeAlias parts
  | "const" => if second == "enum" then enumeration parts else bindings parts {}
  | "enum" => enumeration parts
  | "let" | "var" => bindings parts {}
  | "namespace" | "module" => namespaceDeclaration parts
  | _ => if (← startsWith "@") then classDeclaration parts else refuse

/-- A declaration of something that is defined elsewhere. -/
def ambient : Reader SyntaxTree := do
  let start ← nextOffset
  word "declare"
  if ← lineBreakAhead then refuse
  let inner ← either (declaration parts) (namespaceDeclaration parts)
  node .other start [inner]

/-! ### Modules -/

/-- Names between braces. -/
def specifiers : Reader SyntaxTree :=
  bracketed "\x7b" "\x7d" do
    let first ← nextOffset
    let _ ← many (either quoted (anyWord .other))
    if (← get).offset == first then refuse
    node .other first []

/-- The module that names come from. -/
def source : Reader Unit := do
  word "from"
  let _ ← quoted

/-- Attributes of an import. -/
def importAttributes : Reader (List SyntaxTree) := do
  match ← wordAhead with
  | "with" | "assert" => maybe do
    let _ ← anyWord .other
    bracketed "\x7b" "\x7d" (objectMember parts)
  | _ => return []

/-- What an import brings in, and from where. -/
def importClause : Reader Unit := do
  if ← startsWith "*" then
    sign "*"
    word "as"
    let _ ← name
    source
  else if ← startsWith "\x7b" then
    let _ ← specifiers
    source
  else
    let _ ← name
    if ← accept "," then
      if ← startsWith "*" then
        sign "*"
        word "as"
        let _ ← name
      else
        let _ ← specifiers
    source

/-- A name for something in another namespace or module. -/
def importAlias : Reader Unit := do
  let _ ← name
  sign "="
  let _ ← name
  let _ ← many do
    sign "."
    anyWord .other
  let _ ← optional do
    sign "("
    let _ ← quoted
    sign ")"

/-- An import. -/
def importStatement : Reader SyntaxTree := do
  let start ← nextOffset
  word "import"
  match ← ahead with
  | '(' :: _ | '.' :: _ => refuse
  | _ =>
    let _ ← either importAlias <| either importClause <|
      either (do word "type"; either importAlias importClause) <|
      either (do word "typeof"; importClause) (do let _ ← quoted)
    let attributes ← importAttributes parts
    endStatement false
    node .other start attributes

/-- What stands behind `export`. -/
def exported : Reader (List SyntaxTree) := do
  match ← ahead with
  | '*' :: _ =>
    sign "*"
    let _ ← optional do
      word "as"
      either quoted (anyWord .other)
    source
    let attributes ← importAttributes parts
    endStatement false
    return attributes
  | '\x7b' :: _ =>
    let _ ← specifiers
    let _ ← optional source
    let attributes ← importAttributes parts
    endStatement false
    return attributes
  | '=' :: _ =>
    sign "="
    let value ← parts (.expression {})
    endStatement true
    return [value]
  | _ =>
    let (first, second) ← wordsAhead
    match first with
    | "default" =>
      word "default"
      either (do return [← declaration parts]) do
        let value ← parts (.expression {})
        endStatement true
        return [value]
    | "import" => return [← importStatement parts]
    | "declare" => return [← ambient parts]
    | "as" =>
      word "as"
      word "namespace"
      let _ ← name
      endStatement false
      return []
    | "type" =>
      if second.isEmpty then
        word "type"
        if ← accept "*" then
          let _ ← optional do
            word "as"
            anyWord .other
        else
          let _ ← specifiers
        let _ ← optional source
        endStatement false
        return []
      else return [← declaration parts]
    | _ => return [← declaration parts]

/-- An export, with the decorators in front of it. -/
def exportStatement : Reader SyntaxTree := do
  let start ← nextOffset
  let decorators ← many (decorator parts)
  word "export"
  node .exportStatement start (decorators ++ (← exported parts))

/-! ### Statements with parts -/

/-- An expression between parentheses. -/
def condition : Reader SyntaxTree := do
  sign "("
  let inner ← parts (.expression {})
  sign ")"
  return inner

/-- A loop over the values of an expression: what they are bound to, and the expression. -/
def eachHead : Reader (List SyntaxTree) := do
  let w ← wordAhead
  let target ← match bindingKind? w with
    | some _ => do
      word w
      let own ← parts .binding
      let type ← annotation parts
      pure (own :: type ++ (← initializer parts))
    | none => do
      pure [← parts .operand]
  let _ ← either (word "of") (word "in")
  return target ++ [← parts (.expression {})]

/-- A loop with a counter: its beginning, its condition and its step. -/
def countHead : Reader (List SyntaxTree) := do
  let w ← wordAhead
  let first ←
    match bindingKind? w with
    | some _ => do pure [← bindings parts { allowIn := false }]
    | none => do
      let inner ← maybe (parts (.expression { allowIn := false }))
      sign ";"
      pure inner
  let second ← maybe (parts (.expression {}))
  sign ";"
  let third ← maybe (parts (.expression {}))
  return first ++ second ++ third

/-- A loop with `for`. -/
def forStatement : Reader SyntaxTree := do
  let start ← nextOffset
  word "for"
  let _ ← acceptWord "await"
  sign "("
  let head ← either (do let h ← eachHead parts; sign ")"; return h)
    (do let h ← countHead parts; sign ")"; return h)
  node .other start (head ++ [← parts .statement])

/-- A branch on a condition. -/
def ifStatement : Reader SyntaxTree := do
  let start ← nextOffset
  word "if"
  let test ← condition parts
  let yes ← parts .statement
  if ← acceptWord "else" then node .other start [test, yes, ← parts .statement]
  else node .other start [test, yes]

/-- A loop with its condition behind it. -/
def doStatement : Reader SyntaxTree := do
  let start ← nextOffset
  word "do"
  let body ← parts .statement
  word "while"
  let test ← condition parts
  let _ ← accept ";"
  node .other start [body, test]

/-- A case of a `switch`. -/
def switchCase : Reader SyntaxTree := do
  let start ← nextOffset
  let test ← if ← acceptWord "default" then pure [] else do
    word "case"
    pure [← parts (.expression { typedArrows := false })]
  sign ":"
  let body ← many do
    let w ← wordAhead
    if w == "case" || w == "default" then refuse
    parts .statement
  node .other start (test ++ body)

/-- A `switch` over its cases. -/
def switchStatement : Reader SyntaxTree := do
  let start ← nextOffset
  word "switch"
  let subject ← condition parts
  sign "\x7b"
  let cases ← many (switchCase parts)
  sign "\x7d"
  node .other start (subject :: cases)

/-- A block whose failures are caught. -/
def tryStatement : Reader SyntaxTree := do
  let start ← nextOffset
  word "try"
  let body ← parts .block
  let handler ← if ← acceptWord "catch" then do
      let bound ← if ← accept "(" then do
          let own ← parts .binding
          let type ← annotation parts
          sign ")"
          pure (own :: type)
        else pure []
      pure (bound ++ [← parts .block])
    else pure []
  let finish ← if ← acceptWord "finally" then pure [← parts .block] else pure []
  node .other start (body :: handler ++ finish)

/-- A statement that begins with a word and may have an expression. -/
def leaveStatement : Reader SyntaxTree := do
  let start ← nextOffset
  let _ ← anyWord .other
  let p ← get
  match statementEnd? false (p.rest.length + 1) p with
  | some q =>
    set q
    node .other start []
  | none =>
    let inner ← if ← startsWith ";" then pure [] else pure [← parts (.expression {})]
    endStatement true
    node .other start inner

/-- A statement behind a label. -/
def labeled : Reader SyntaxTree := do
  let start ← nextOffset
  let _ ← name
  sign ":"
  node .other start [← parts .statement]

/-- An expression as a statement. -/
def expressionStatement : Reader SyntaxTree := do
  let start ← nextOffset
  let inner ← parts (.expression {})
  endStatement true
  node .other start [inner]

/-- Statements between braces. -/
def block : Reader SyntaxTree := do
  let start ← nextOffset
  sign "\x7b"
  let statements ← many (parts .statement)
  sign "\x7d"
  node .other start statements

/-- A statement that does not begin with a keyword of its own. -/
def openStatement : Reader SyntaxTree :=
  either (declaration parts) <| either (namespaceDeclaration parts) <| either (ambient parts) <|
    either (labeled parts) (expressionStatement parts)

/-- A statement. -/
def statement : Reader SyntaxTree := do
  match ← ahead with
  | '\x7b' :: _ => parts .block
  | ';' :: _ => do
    let start ← nextOffset
    sign ";"
    node .other start []
  | '@' :: _ => either (exportStatement parts) (classDeclaration parts)
  | _ =>
    match ← wordAhead with
    | "export" => exportStatement parts
    | "import" => either (importStatement parts) (expressionStatement parts)
    | "function" => functionDeclaration parts
    | "class" => classDeclaration parts
    | "const" | "var" => declaration parts
    | "if" => ifStatement parts
    | "for" => forStatement parts
    | "while" => do
      let start ← nextOffset
      word "while"
      let test ← condition parts
      node .other start [test, ← parts .statement]
    | "with" => do
      let start ← nextOffset
      word "with"
      let subject ← condition parts
      node .other start [subject, ← parts .statement]
    | "do" => doStatement parts
    | "switch" => switchStatement parts
    | "try" => tryStatement parts
    | "return" | "throw" | "break" | "continue" | "debugger" => leaveStatement parts
    | _ => openStatement parts

end RiskGauge.Script
