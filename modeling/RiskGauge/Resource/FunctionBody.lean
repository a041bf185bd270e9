import RiskGauge.Pattern.Build

/-!
# Bodies of functions

Functions are found by the look of their headers. A body between braces ends at the brace that balances
the opening one; the body of an arrow function without braces ends with its line or at a semicolon.
-/

namespace RiskGauge.FunctionBody

open Pattern

/-- The header of a function with a name, up to its opening brace. -/
def namedHeader : Pattern :=
  all [exactly "function", blanks, optional (char '*'), blanks, group 1 (some1 Text.isWord), blanks, char '(',
    many (· != ')'), char ')', many (fun c => c != '\x7b' && c != ';'), char '\x7b']

/-- The header of an arrow function that is bound to a name, up to its body. -/
def arrowHeader : Pattern :=
  all [edge, group 1 (some1 Text.isWord), blanks, char '=', blanks, optional (seq (exactly "async") blanks),
    char '(', many (· != ')'), char ')', many (fun c => c != '=' && c != ';' && c != '\x7b'), exactly "=>",
    blanks]

/-- How far the closing brace is that brings the depth back to zero. -/
def closing? : Int → List Char → Option Nat
  | _, [] => none
  | depth, c :: rest =>
    if c = '\x7b' then (closing? (depth + 1) rest).map (· + 1)
    else if c = '\x7d' then
      if depth = 1 then some 0 else (closing? (depth - 1) rest).map (· + 1)
    else (closing? depth rest).map (· + 1)

/-- The index of the brace that closes the one at an index, or the length of the text. -/
def blockEnd (text : List Char) (start : Nat) : Nat :=
  match closing? 0 (text.drop start) with
  | some n => start + n
  | none => text.length

/-- The characters between two indices. -/
def slice (text : List Char) (start stop : Nat) : List Char :=
  (text.drop start).take (stop - start)

/-- The body between braces that begins at an index. -/
def block (text : List Char) (start : Nat) : List Char :=
  slice text (start + 1) (blockEnd text start)

/-- A function: its name and its body. -/
structure Body where
  name : List Char
  text : List Char
deriving DecidableEq, Repr

/-- The index behind a match. -/
def stopIndex (text : List Char) (m : Found) : Nat :=
  text.length - m.stop.left

/-- The functions with a header of their own. -/
def named (text : List Char) : List Body :=
  (namedHeader.findAll text).map fun m => { name := m.group 1, text := block text (stopIndex text m - 1) }

/-- The arrow functions. -/
def arrows (text : List Char) : List Body :=
  (arrowHeader.findAll text).map fun m =>
    let start := stopIndex text m
    let rest := text.drop start
    { name := m.group 1
      text :=
        if rest.head? = some '\x7b' then block text start
        else rest.takeWhile fun c => c != ';' && c != '\n' }

/-- All functions with their bodies. -/
def ofText (text : List Char) : List Body :=
  named text ++ arrows text

/-- A call of a name. -/
def callOf (name : List Char) : Pattern :=
  all [edge, textBy (· == ·) name, blanks, char '(']

/-- Some function calls itself in its body. -/
def hasSelfCall (text : List Char) : Bool :=
  (ofText text).any fun b => (callOf b.name).occursIn b.text

end RiskGauge.FunctionBody
