import RiskGauge.Text.Case

/-!
# The two grammars

Sources are read with plain TypeScript or with the variant that has elements in angle brackets.
-/

namespace RiskGauge

/-- The grammar in which a source is read. -/
inductive Grammar where
  | typescript
  | tsx
deriving DecidableEq, Repr

namespace Grammar

/-- The name of the grammar. -/
def name : Grammar → String
  | typescript => "typescript"
  | tsx => "tsx"

/-- The grammar for the tag of a code block or the ending of a file name; dots in front do not count. -/
def ofTag (tag : String) : Grammar :=
  let word := (Text.lowercase tag.toList).dropWhile (· == '.')
  if word == "tsx".toList || word == "jsx".toList then tsx else typescript

end Grammar

end RiskGauge
