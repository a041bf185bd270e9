import RiskGauge.Text.CharClass

/-!
# Places in a text

A `Cursor` stands between two characters of a text: `before` is the text up to it, last character
first, and `after` the text from it on. `left` counts the characters of `after`, so it names the place;
it grows smaller as the cursor moves forward. `marks` remember where the groups of a pattern began and
ended.
-/

namespace RiskGauge

/-- Where a group of a pattern began and, once it is closed, ended, as numbers of characters left. -/
structure GroupMark where
  group : Nat
  start : Nat
  stop : Option Nat

/-- A place in a text, with the groups that were matched on the way to it. -/
structure Cursor where
  before : List Char
  after : List Char
  left : Nat
  marks : List GroupMark := []

namespace Cursor

/-- The place in front of a text. -/
def ofText (s : List Char) : Cursor :=
  { before := [], after := s, left := s.length }

/-- The place behind the next character, if that passes the test. -/
def step? (test : Char → Bool) (s : Cursor) : Option Cursor :=
  match s.after with
  | [] => none
  | c :: rest =>
    if test c then some { s with before := c :: s.before, after := rest, left := s.left - 1 } else none

/-- The places reached over characters that pass the test, at most `limit` of them: the place itself
first, then one character further each. `after` is the text from the place on. -/
def spanFrom (test : Char → Bool) (limit : Option Nat) (s : Cursor) : List Char → List Cursor
  | [] => [s]
  | c :: rest =>
    if limit != some 0 && test c then
      s :: spanFrom test (limit.map (· - 1))
        { s with before := c :: s.before, after := rest, left := s.left - 1 } rest
    else [s]

/-- The places of `spanFrom` for the text after the cursor. -/
def span (test : Char → Bool) (limit : Option Nat) (s : Cursor) : List Cursor :=
  s.spanFrom test limit s.after

/-- The place `n` characters back. -/
def back? : Nat → Cursor → Option Cursor
  | 0, s => some s
  | n + 1, s =>
    match s.before with
    | [] => none
    | c :: rest => back? n { s with before := rest, after := c :: s.after, left := s.left + 1 }

/-- The place behind the given text, compared character by character. -/
def follow? (same : Char → Char → Bool) : List Char → Cursor → Option Cursor
  | [], s => some s
  | c :: rest, s => (s.step? (same c)).bind (follow? same rest)

/-- The mark of a group. -/
def mark? (s : Cursor) (group : Nat) : Option GroupMark :=
  s.marks.find? (·.group == group)

/-- Begins a group at this place; where it ended before is kept until it ends again. -/
def openGroup (s : Cursor) (group : Nat) : Cursor :=
  let mark := { group, start := s.left, stop := (s.mark? group).bind (·.stop) }
  { s with marks := mark :: s.marks.filter (·.group != group) }

/-- Ends a group at this place. -/
def closeGroup (s : Cursor) (group : Nat) : Cursor :=
  { s with marks := s.marks.map fun m => if m.group == group then { m with stop := some s.left } else m }

/-- The text between two places, given as numbers of characters left: what of it lies behind the cursor, and then what
lies ahead of it. A group of a look-ahead lies ahead. -/
def between (s : Cursor) (start stop : Nat) : List Char :=
  ((s.before.drop (stop - s.left)).take (start - max stop s.left)).reverse ++
    (s.after.drop (s.left - start)).take (min start s.left - stop)

/-- The text of a group, unless it did not take part or was begun again further on. -/
def group? (s : Cursor) (group : Nat) : Option (List Char) := do
  let mark ← s.mark? group
  let stop ← mark.stop
  if stop ≤ mark.start then some (s.between mark.start stop) else none

/-- At the start or the end of a word, or with `edge := false` at neither. An empty text has no such
place. -/
def atWordEdge (word : Char → Bool) (edge : Bool) (s : Cursor) : Bool :=
  !(s.before.isEmpty && s.after.isEmpty) &&
    ((s.before.head?.any word != s.after.head?.any word) == edge)

end Cursor

end RiskGauge
