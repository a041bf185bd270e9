import RiskGauge.Resource.BigO
import RiskGauge.Resource.FunctionBody

/-!
# Signs of complexity

Branches and loops are counted by their keywords, and nested loops are recognised by how close the
keywords are to each other.
-/

namespace RiskGauge.Complexity

open Pattern

/-- Keywords that branch. -/
def branchWord : Pattern :=
  all [edge, any (["if", "case", "catch", "for", "while", "switch", "try"].map exactly), edge]

/-- Operators that branch. -/
def branchOperator : Pattern :=
  either (exactly "&&") (exactly "||")

/-- Keywords of loops, and calls that loop. -/
def loopToken : Pattern :=
  either (all [edge, any (["for", "while", "forEach"].map exactly), edge])
    (all [edge, any (["map", "reduce"].map exactly), char '('])

/-- The keyword of a loop. -/
def loopWord : Pattern :=
  any (["for", "while"].map exactly)

/-- A loop directly in the body of a loop. -/
def nestedLoop : Pattern :=
  all [edge, loopWord, blanks, char '(', many (· != ')'), char ')', blanks, char '\x7b',
    many (fun c => c != '\x7b' && c != '\x7d'), edge, loopWord, blanks, char '(']

/-- At most three hundred characters, as few as will do. -/
def shortStretch : Pattern :=
  span (fun _ => true) 0 (some 300) true

/-- Three loops close to each other. -/
def tripleLoop : Pattern :=
  let word := all [edge, loopWord, edge]
  all [word, shortStretch, word, shortStretch, word]

/-- A call that sorts. -/
def sortCall : Pattern :=
  either (all [edge, exactly "sort", blanks, char '('])
    (all [edge, any (["Collections", "Arrays"].map exactly), exactly ".sort", edge])

/-- Words for work that is divided. -/
def dividing : Pattern :=
  all [edge, any (["mid", "merge", "partition", "divide", "conquer"].map anyCase), edge]

/-- A repetition inside of a repetition. -/
def nestedRepeat : Pattern :=
  let sign (c : Char) : Bool := c == '+' || c == '*'
  either
    (all [char '(', many (fun c => c != '(' && c != ')'), one sign, char ')',
      one fun c => sign c || c == '\x7b'])
    (loop (exactly ".*") 2 none false)

/-- A pattern that is compiled when the source runs. -/
def compiledPattern : Pattern :=
  either (all [exactly "new", gap, exactly "RegExp"]) (exactly "re.compile")

/-- What the look of a source says about its running time. -/
structure Signals where
  bigO : BigO := .unknown
  /-- One more than the number of branches. -/
  branching : Nat := 1
  loopCount : Nat := 0
  loopDepth : Nat := 0
  recursive : Bool := false
  divides : Bool := false
  sorts : Bool := false
  patternBomb : Bool := false
deriving DecidableEq, Repr

/-- The reasons behind the signals. -/
def Signals.reasons (s : Signals) : List String :=
  (if s.patternBomb then ["ReDoS pattern suspected"] else [])
    ++ (if s.divides then ["Divide-and-conquer recursion hint"] else [])
    ++ (if s.sorts then ["Sort usage hint"] else [])

/-- The depth to which loops seem to be nested. -/
def loopDepth (text : List Char) : Nat :=
  if tripleLoop.occursIn text then 3
  else if nestedLoop.occursIn text then 2
  else if 0 < loopToken.count text then 1
  else 0

/-- The signs of complexity in a source. -/
def scan (text : List Char) : Signals :=
  if text.isEmpty then {}
  else
    let loopDepth := loopDepth text
    let sorts := sortCall.occursIn text
    let recursive := FunctionBody.hasSelfCall text
    let divides := recursive && dividing.occursIn text
    { bigO := .classify loopDepth sorts divides recursive
      branching := 1 + branchWord.count text + branchOperator.count text
      loopCount := loopToken.count text
      loopDepth, recursive, divides, sorts
      patternBomb := nestedRepeat.occursIn text && compiledPattern.occursIn text }

end RiskGauge.Complexity
