import RiskGauge.Text.CharClass
import RiskGauge.Text.IdentifierTable

/-!
# Identifiers

An identifier begins with a letter or an underscore; letters, decimal digits, underscores and marks follow. The letters are
those of all scripts.
-/

namespace RiskGauge.Text

/-- A character that may begin an identifier. -/
def beginsIdentifier (c : Char) : Bool :=
  let n := c.toNat
  (isWord c && !isDigit c && !inRanges numeralsOutside n && !inRanges lettersInside n) || inRanges marksInFront n

/-- A character that may stand in an identifier. -/
def continuesIdentifier (c : Char) : Bool :=
  let n := c.toNat
  (isWord c && !inRanges numeralsOutside n) || inRanges marksInside n

/-- The text is an identifier. -/
def isIdentifier : List Char → Bool
  | [] => false
  | c :: rest => beginsIdentifier c && rest.all continuesIdentifier

end RiskGauge.Text
