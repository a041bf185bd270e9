import RiskGauge.Text.Lines

/-!
# Changed lines

Two versions of a text are aligned by their longest common block of lines, and then the lines before it
and those behind it in the same way. Of several longest blocks the first in the old version is taken, and
of these the first in the new one. A line of the new version that is in no block was changed.
-/

namespace RiskGauge.ChangedLines

variable {α : Type} [DecidableEq α]

/-- How many lines in a row are common from a line on and from each line of `new` on; `below` are these
numbers for the line that follows. -/
def runsFrom (line : α) : List α → List Nat → List Nat
  | [], _ => []
  | x :: new, below =>
    (if line = x then (below.drop 1).headD 0 + 1 else 0) :: runsFrom line new (below.drop 1)

/-- The numbers of `runsFrom` for each line of `old`. -/
def runs (new : List α) : List α → List (List Nat)
  | [] => []
  | line :: old =>
    let rest := runs new old
    runsFrom line new (rest.headD []) :: rest

/-- A common block: where it begins in the old version and in the new one, and its length. -/
structure Block where
  old : Nat
  new : Nat
  length : Nat
deriving DecidableEq, Repr

/-- The longest block of a row, if it is longer than the one known. -/
def longestInRow (old : Nat) (best : Block) (row : List Nat) : Block :=
  row.zipIdx.foldl (fun b (n, j) => if b.length < n then { old, new := j, length := n } else b) best

/-- The longest common block. -/
def longest (old new : List α) : Block :=
  (runs new old).zipIdx.foldl (fun b (row, i) => longestInRow i b row) ⟨0, 0, 0⟩

/-- The number of lines in common blocks. -/
def matched (old new : List α) : Nat :=
  match longest old new with
  | ⟨i, j, n⟩ =>
    if 0 < n ∧ i < old.length then
      matched (old.take i) (new.take j) + n + matched (old.drop (i + n)) (new.drop (j + n))
    else 0
termination_by old.length
decreasing_by
  · simp only [List.length_take]
    omega
  · simp only [List.length_drop]
    omega

/-- The most lines that an estimate gives. -/
def cap : Nat := 200

/-- A fifth of the lines, rounded, but not more than the cap. -/
def estimate (lines : Nat) : Nat :=
  min cap ((2 * lines + 5) / 10)

/-- The number of changed lines of a text; an estimate without an earlier version. -/
def count (text : List Char) (before : Option (List Char)) : Nat :=
  if text.isEmpty then 0
  else
    match before with
    | none => estimate (Text.lineCount text)
    | some before =>
      let new := Text.lines text
      new.length - matched (Text.lines before) new

end RiskGauge.ChangedLines
