import RiskGauge.Text.CharClass

/-!
# Lines of a text

`lines` cuts a text after every line break, without keeping the breaks; a text that ends in a break
has no empty line after it. `lineCount` counts line feeds only, so a text always has a line.
-/

namespace RiskGauge.Text

/-- The lines of the rest of a text whose current line, last character first, is `line`. -/
def linesFrom (line : List Char) : List Char → List (List Char)
  | [] => if line.isEmpty then [] else [line.reverse]
  | '\r' :: '\n' :: rest => line.reverse :: linesFrom [] rest
  | c :: rest => if isLineBreak c then line.reverse :: linesFrom [] rest else linesFrom (c :: line) rest

/-- The lines of a text. -/
def lines (s : List Char) : List (List Char) :=
  linesFrom [] s

/-- One more than the number of line feeds. -/
def lineCount (s : List Char) : Nat :=
  s.count '\n' + 1

/-- The pieces of a text between line feeds, a carriage return before a line feed belonging to the
break. There is always a piece. -/
def feedLinesFrom (line : List Char) : List Char → List (List Char)
  | [] => [line.reverse]
  | '\r' :: '\n' :: rest => line.reverse :: feedLinesFrom [] rest
  | '\n' :: rest => line.reverse :: feedLinesFrom [] rest
  | c :: rest => feedLinesFrom (c :: line) rest

/-- The text cut at line feeds, see `feedLinesFrom`. -/
def feedLines (s : List Char) : List (List Char) :=
  feedLinesFrom [] s

/-- Line feeds for every way to write the end of a line. -/
def unifyBreaks : List Char → List Char
  | [] => []
  | '\r' :: '\n' :: rest => '\n' :: unifyBreaks rest
  | '\r' :: rest => '\n' :: unifyBreaks rest
  | c :: rest => c :: unifyBreaks rest

end RiskGauge.Text
