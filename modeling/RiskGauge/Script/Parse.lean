import RiskGauge.Script.Statement

/-!
# Whole sources

`Script.parse` gives the tree of a source, or nothing if it does not follow the grammar.
-/

namespace RiskGauge.Script

/-- The readers of all kinds of pieces, nested at most `n` deep. -/
def part : Nat → Parts
  | 0, _ => refuse
  | n + 1, .statement => statement (part n)
  | n + 1, .block => block (part n)
  | n + 1, .expression mode => expression (part n) mode
  | n + 1, .assignment mode => assignment (part n) mode
  | n + 1, .operand => operand (part n)
  | n + 1, .construct => construct (part n) (simpleOperand (part n))
  | n + 1, .element => element (part n)
  | n + 1, .type => type (part n)
  | n + 1, .binding => binding (part n)

/-- The statements of a source, behind a line that names an interpreter. -/
def program (n : Nat) : Reader SyntaxTree := do
  let p ← get
  if "#!".toList.isPrefixOf p.rest then
    set (p.advance (p.rest.takeWhile (!isBreak ·)).length)
  let statements ← many (part n .statement)
  skip
  unless (← get).rest.isEmpty do refuse
  node .other 0 statements

/-- The tree of a source. -/
def parse (grammar : Grammar) (source : List Char) : Option SyntaxTree :=
  ((program (8 * (source.length + 1))).run grammar |>.run { rest := source }).map Prod.fst

end RiskGauge.Script
