import RiskGauge.Script.Grammar
import RiskGauge.SyntaxTree

/-!
# Reading sources

A `Reader` takes a piece from the front of a source and may refuse, in which case nothing is taken. Blanks
and comments are skipped in front of a token, never behind it, so that after a piece was read the offset
is where its last token ends.
-/

namespace RiskGauge.Script

/-- What is left of a source, and how much of it was read. -/
structure Place where
  rest : List Char
  offset : Nat := 0

/-- Readers of pieces of a source. -/
abbrev Reader := ReaderT Grammar (StateT Place Option)

/-! ### Characters -/

/-- Blanks between tokens. -/
def isGap (c : Char) : Bool :=
  let n := c.toNat
  (9 ≤ n && n ≤ 13) || n == 0x20 || n == 0x85 || n == 0xA0 || n == 0x1680 || (0x2000 ≤ n && n ≤ 0x200B)
    || n == 0x2028 || n == 0x2029 || n == 0x202F || n == 0x205F || n == 0x2060 || n == 0x3000 || n == 0xFEFF

/-- Ends of lines. -/
def isBreak (c : Char) : Bool :=
  c == '\n' || c == '\r' || c.toNat == 0x2028 || c.toNat == 0x2029

/-- Characters inside of names: all but control characters, blanks and the signs of ASCII. -/
def isNamePart (c : Char) : Bool :=
  if c.toNat < 0x80 then c.isAlphanum || c == '_' || c == '$' || c.toNat == 0x7F else !isGap c

/-- Characters with which names begin. -/
def isNameStart (c : Char) : Bool :=
  isNamePart c && !c.isDigit

/-! ### Gaps -/

/-- Whether a gap is between comments or inside of one. -/
inductive GapState where
  | blanks
  | line
  | block

/-- The length of the gap in front of a text, and whether it holds the end of a line. -/
def gapLength : GapState → List Char → Nat → Bool → Nat × Bool
  | _, [], n, broken => (n, broken)
  | .blanks, '/' :: '/' :: rest, n, broken => gapLength .line rest (n + 2) broken
  | .blanks, '/' :: '*' :: rest, n, broken => gapLength .block rest (n + 2) broken
  | .blanks, c :: rest, n, broken =>
    if isGap c then gapLength .blanks rest (n + 1) (broken || isBreak c) else (n, broken)
  | .line, c :: rest, n, broken =>
    if isBreak c then gapLength .blanks rest (n + 1) true else gapLength .line rest (n + 1) broken
  | .block, '*' :: '/' :: rest, n, broken => gapLength .blanks rest (n + 2) broken
  | .block, c :: rest, n, broken => gapLength .block rest (n + 1) (broken || isBreak c)

namespace Place

/-- The place some characters further on. -/
def advance (n : Nat) (p : Place) : Place :=
  { rest := p.rest.drop n, offset := p.offset + n }

/-- The place behind the gap. -/
def skip (p : Place) : Place :=
  p.advance (gapLength .blanks p.rest 0 false).1

/-- The gap holds the end of a line. -/
def broken (p : Place) : Bool :=
  (gapLength .blanks p.rest 0 false).2

/-- The place behind blanks that do not end the line. -/
def skipBlanks (p : Place) : Place :=
  p.advance (p.rest.takeWhile fun c => isGap c && c != '\n').length

/-- The length of a comment behind its first two characters. -/
def commentLength (block : Bool) : List Char → Nat
  | [] => 0
  | '*' :: '/' :: rest => if block then 2 else commentLength block rest + 2
  | c :: rest => if !block && isBreak c then 0 else commentLength block rest + 1

end Place

/-! ### Tokens -/

/-- Refuses. -/
def refuse {α : Type} : Reader α := failure

/-- Skips the gap. -/
def skip : Reader Unit := modify Place.skip

/-- The offset of the next token. -/
def nextOffset : Reader Nat := do
  skip
  return (← get).offset

/-- The text from the next token on. -/
def ahead : Reader (List Char) := return (← get).skip.rest

/-- There is the end of a line in front of the next token. -/
def lineBreakAhead : Reader Bool := return (← get).broken

/-- The next token begins with a given text. -/
def startsWith (s : String) : Reader Bool := return s.toList.isPrefixOf (← ahead)

/-- Takes a given text. -/
def sign (s : String) : Reader Unit := do
  let p := (← get).skip
  if s.toList.isPrefixOf p.rest then set (p.advance s.length) else refuse

/-- Takes a given text, if it comes next. -/
def accept (s : String) : Reader Bool := do
  if ← startsWith s then
    sign s
    return true
  else return false

/-- The length of the name at the front of a text; `inside` is true between the braces of a code. -/
def nameLength : Bool → List Char → Nat
  | _, [] => 0
  | true, c :: rest => nameLength (c != '}') rest + 1
  | false, '\\' :: 'u' :: '{' :: rest => nameLength true rest + 3
  | false, '\\' :: 'u' :: rest => nameLength false rest + 2
  | false, c :: rest => if isNamePart c then nameLength false rest + 1 else 0

/-- The name or word that comes next; empty if none does. -/
def wordAhead : Reader String := do
  let text ← ahead
  match text with
  | c :: _ =>
    if isNameStart c || c == '\\' then return String.ofList (text.take (nameLength false text))
    else return ""
  | [] => return ""

/-- Takes a given word. -/
def word (w : String) : Reader Unit := do
  if (← wordAhead) == w then sign w else refuse

/-- Takes a given word, if it comes next. -/
def acceptWord (w : String) : Reader Bool := do
  if (← wordAhead) == w then
    sign w
    return true
  else return false

/-- What comes behind the next word. -/
def behindWord : Reader (List Char) := do
  let p := (← get).skip
  return (p.advance (nameLength false p.rest)).skip.rest

/-- The next two words. -/
def wordsAhead : Reader (String × String) := do
  let p := (← get).skip
  let first ← wordAhead
  let q := (p.advance first.length).skip
  return (first, String.ofList (q.rest.take (nameLength false q.rest)))

/-- Words that cannot be names. -/
def reserved : List String :=
  ["break", "case", "catch", "class", "const", "continue", "debugger", "default", "delete", "do", "else",
    "enum", "export", "extends", "false", "finally", "for", "function", "if", "import", "in", "instanceof",
    "new", "null", "return", "super", "switch", "this", "throw", "true", "try", "typeof", "var", "void",
    "while", "with"]

/-! ### Pieces -/

/-- A node from an offset up to here. -/
def node (kind : NodeKind) (start : Nat) (children : List SyntaxTree) : Reader SyntaxTree :=
  return .node .plain kind ⟨start, (← get).offset⟩ children

/-- Takes any word, keywords included. -/
def anyWord (kind : NodeKind) : Reader SyntaxTree := do
  let w ← wordAhead
  if w.isEmpty then refuse
  let start ← nextOffset
  sign w
  node kind start []

/-- Takes a name. -/
def name : Reader SyntaxTree := do
  let w ← wordAhead
  if reserved.contains w then refuse
  anyWord .identifier

/-- The first reader, or the second one where the first refuses. -/
def either {α : Type} (p q : Reader α) : Reader α := p <|> q

/-- The pieces, at most `n` of them, up to the first that is refused. -/
def upTo {α : Type} (p : Reader α) : Nat → Reader (List α)
  | 0 => return []
  | n + 1 => do
    match ← optional p with
    | some a => return a :: (← upTo p n)
    | none => return []

/-- The number of characters left. -/
def left : Reader Nat := return (← get).rest.length

/-- All pieces up to the first that is refused. -/
def many {α : Type} (p : Reader α) : Reader (List α) := do
  upTo p (← left)

/-- A piece that may be left out. -/
def maybe (p : Reader SyntaxTree) : Reader (List SyntaxTree) := do
  return (← optional p).toList

/-- Pieces with a sign in between. -/
def separated (s : String) (p : Reader SyntaxTree) : Reader (List SyntaxTree) := do
  let first ← p
  return first :: (← many do sign s; p)

/-- The pieces between brackets, at most `n` of them, with commas in between; pieces may be left out. -/
def itemsUntil (close : String) (p : Reader SyntaxTree) : Nat → Reader (List SyntaxTree)
  | 0 => refuse
  | n + 1 => do
    if ← accept close then return []
    if ← accept "," then itemsUntil close p n
    else
      let item ← p
      if ← accept close then return [item]
      sign ","
      return item :: (← itemsUntil close p n)

/-- Pieces between brackets with commas in between. -/
def bracketed (open_ close : String) (p : Reader SyntaxTree) : Reader SyntaxTree := do
  let start ← nextOffset
  sign open_
  node .other start (← itemsUntil close p (← left))

/-! ### Ends of statements -/

/-- A line that begins like this goes on with the statement before it. Inside of an expression an opening
parenthesis or bracket does so too. -/
def continues (inExpression : Bool) (rest : List Char) : Bool :=
  match rest with
  | [] => false
  | '+' :: more => !(more.head? == some '+')
  | '-' :: more => !(more.head? == some '-')
  | '!' :: more => more.head? == some '='
  | '(' :: _ | '[' :: _ => inExpression
  | c :: _ =>
    if "`,.;*%><=?^|&/:".toList.contains c then true
    else
      let w := String.ofList (rest.take (nameLength false rest))
      w == "in" || w == "instanceof"

/-- The place at which a statement ends that has no semicolon: the end of the source, a closing brace, or
the end of a line on which the next one does not go on. Comments on the same line belong to the statement. -/
def statementEnd? (inExpression : Bool) : Nat → Place → Option Place
  | 0, _ => none
  | n + 1, p =>
    let q := p.skipBlanks
    match q.rest with
    | [] => some p
    | '}' :: more =>
      if !inExpression && (more.dropWhile isGap).head? == some ':' then none else some p
    | '\n' :: _ => if continues inExpression q.skip.rest then none else some p
    | '/' :: '/' :: more => statementEnd? inExpression n (q.advance (2 + Place.commentLength false more))
    | '/' :: '*' :: more => statementEnd? inExpression n (q.advance (2 + Place.commentLength true more))
    | _ => none

/-- Ends a declaration without a semicolon, if it ends here. -/
def endDeclaration : Reader Unit := do
  let p ← get
  match statementEnd? false (p.rest.length + 1) p with
  | some q => set q
  | none => return

/-- Ends a statement, with a semicolon if there is one. -/
def endStatement (inExpression : Bool) : Reader Unit := do
  let p ← get
  match statementEnd? inExpression (p.rest.length + 1) p with
  | some q => set q
  | none =>
    let _ ← accept ";"

/-! ### The kinds of pieces that contain each other -/

/-- How an expression is read. -/
structure Mode where
  /-- The word `in` is an operator. -/
  allowIn : Bool := true
  /-- The parameters of an arrow function may have the type of the result behind them. -/
  typedArrows : Bool := true

/-- Pieces of a source that contain each other. -/
inductive Part where
  | statement
  | block
  /-- Expressions with commas in between. -/
  | expression (mode : Mode)
  | assignment (mode : Mode)
  /-- An operand with the signs in front of it and behind it. -/
  | operand
  /-- What stands behind `new`. -/
  | construct
  | element
  | type
  | binding

/-- Readers of all kinds of pieces. -/
abbrev Parts := Part → Reader SyntaxTree

end RiskGauge.Script
