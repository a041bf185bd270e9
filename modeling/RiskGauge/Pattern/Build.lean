import RiskGauge.Pattern.Basic
import RiskGauge.Text.Case

/-!
# Building patterns

The words in which the cues of the scanners are written: exact texts and texts with case disregarded,
sequences, alternatives, and counted characters.
-/

namespace RiskGauge.Pattern

/-- One pattern after the other. -/
def all (ps : List Pattern) : Pattern :=
  ps.foldr seq empty

/-- The first of the patterns that will do. -/
def any : List Pattern → Pattern
  | [] => one fun _ => false
  | [p] => p
  | p :: ps => either p (any ps)

/-- A text, compared character by character. -/
def textBy (same : Char → Char → Bool) (s : List Char) : Pattern :=
  all (s.map fun c => one (same c))

/-- A text exactly. -/
def exactly (s : String) : Pattern :=
  textBy (· == ·) s.toList

/-- A text with case disregarded. -/
def anyCase (s : String) : Pattern :=
  textBy Text.sameLetter s.toList

/-- A given character. -/
def char (c : Char) : Pattern :=
  one (· == c)

/-- As many characters as pass the test, at least one. -/
def some1 (test : Char → Bool) : Pattern :=
  span test 1 none false

/-- As many characters as pass the test. -/
def many (test : Char → Bool) : Pattern :=
  span test 0 none false

/-- As many characters as pass the test, within bounds. -/
def counted (test : Char → Bool) (least most : Nat) : Pattern :=
  span test least (some most) false

/-- Blanks, if any. -/
def blanks : Pattern :=
  many Text.isBlank

/-- At least one blank. -/
def gap : Pattern :=
  some1 Text.isBlank

/-- The start or the end of a word. -/
def edge : Pattern :=
  place (.wordEdge Text.isWord true)

/-- The pattern or nothing. -/
def optional (p : Pattern) : Pattern :=
  loop p 0 (some 1) false

/-- A character with case disregarded among the given ones. -/
def oneAnyCase (inside : Char → Bool) : Char → Bool :=
  fun c => inside c || (Text.variants c).any inside

end RiskGauge.Pattern
