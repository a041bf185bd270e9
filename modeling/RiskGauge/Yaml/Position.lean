import RiskGauge.Text.CharClass

/-!
# Places in a YAML text

A `Position` is the rest of a text together with the place where it begins: the number of characters in front
of it, its line and its column. Lines end at line feeds, next-line characters and the separators of Unicode;
carriage returns have been replaced before.
-/

namespace RiskGauge.Yaml

/-- A character that ends a line. -/
def isBreak (c : Char) : Bool :=
  c == '\n' || c.toNat == 0x85 || c.toNat == 0x2028 || c.toNat == 0x2029

/-- A blank or a tab. -/
def isGap (c : Char) : Bool :=
  c == ' ' || c == '\t'

/-- The end of the text, of a line or of a word. -/
def endsWord : Option Char → Bool
  | none => true
  | some c => isGap c || isBreak c

/-- The end of the text, of a line or of a word, tabs not counted. -/
def endsPart : Option Char → Bool
  | none => true
  | some c => c == ' ' || isBreak c

/-- A character of the names of anchors, handles and directives. -/
def isNameChar (c : Char) : Bool :=
  Text.isAsciiAlnum c || c == '-' || c == '_'

/-- A place in a text. -/
structure Position where
  rest : List Char
  index : Nat := 0
  line : Nat := 0
  column : Nat := 0

namespace Position

/-- The next character. -/
def head? (p : Position) : Option Char :=
  p.rest.head?

/-- The character a number of places further on. -/
def peek? (p : Position) (n : Nat) : Option Char :=
  p.rest[n]?

/-- The place behind the next character. A byte order mark takes no column. -/
def next (p : Position) : Position :=
  match p.rest with
  | [] => p
  | c :: rest =>
    if isBreak c then { rest, index := p.index + 1, line := p.line + 1, column := 0 }
    else { rest, index := p.index + 1, line := p.line, column := if c.toNat == 0xFEFF then p.column else p.column + 1 }

/-- The place a number of characters further on. -/
def advance : Nat → Position → Position
  | 0, p => p
  | n + 1, p => advance n p.next

/-- The characters that pass a test, and the place behind them. -/
def span (test : Char → Bool) (p : Position) : List Char × Position :=
  let taken := p.rest.takeWhile test
  (taken, p.advance taken.length)

/-- The place behind the characters that pass a test. -/
def skip (test : Char → Bool) (p : Position) : Position :=
  (p.span test).2

/-- The place behind blanks that stand in front of a column. -/
def skipTo (column : Nat) (p : Position) : Position :=
  p.advance (min (column - p.column) (p.rest.takeWhile (· == ' ')).length)

/-- The end of a line as it counts in a text, and the place behind it. -/
def lineBreak? (p : Position) : Option (Char × Position) :=
  match p.rest with
  | [] => none
  | c :: _ => if isBreak c then some (if c.toNat == 0x85 then '\n' else c, p.next) else none

/-- A mark that begins or ends a document stands here. -/
def atDocumentMark (p : Position) : Bool :=
  (p.rest.take 3 == ['-', '-', '-'] || p.rest.take 3 == ['.', '.', '.']) && endsWord (p.peek? 3)

/-- The place behind blanks and a comment. -/
def skipComment (p : Position) : Position :=
  let p := p.skip (· == ' ')
  if p.head? == some '#' then p.skip (!isBreak ·) else p

/-- The place behind the end of a line on which there is nothing but a comment. -/
def endOfLine? (p : Position) : Option Position :=
  let p := p.skipComment
  match p.lineBreak? with
  | some (_, p) => some p
  | none => if p.rest.isEmpty then some p else none

end Position

end RiskGauge.Yaml
