import RiskGauge.Pattern.Cursor

/-!
# Text patterns

`Pattern` is what a regular expression means, and `Pattern.run` matches it by backtracking: the ways to
match are tried in order, and the first after which the rest of the pattern succeeds is taken. The rest
is given as a function, so `run` is a structural recursion on the pattern.

A repeated pattern goes on only while its rounds consume something. The rounds that are required at
least are made in any case.
-/

namespace RiskGauge

/-- Conditions on a place in a text. -/
inductive Place where
  /-- In front of the text. -/
  | textStart
  /-- In front of the text or behind a line feed. -/
  | lineStart
  /-- Behind the text. -/
  | textEnd
  /-- Behind the text or in front of a line feed that ends it. -/
  | lastLineEnd
  /-- Behind the text or in front of a line feed. -/
  | lineEnd
  /-- At the start or the end of a word; with `edge := false` elsewhere. -/
  | wordEdge (word : Char → Bool) (edge : Bool)

/-- The cursor stands at such a place. -/
def Place.holds (s : Cursor) : Place → Bool
  | textStart => s.before.isEmpty
  | lineStart => s.before.isEmpty || s.before.head? == some '\n'
  | textEnd => s.after.isEmpty
  | lastLineEnd => s.after.isEmpty || s.after == ['\n']
  | lineEnd => s.after.isEmpty || s.after.head? == some '\n'
  | wordEdge word edge => s.atWordEdge word edge

/-- A regular expression. -/
inductive Pattern where
  /-- The empty text. -/
  | empty
  /-- One character that passes a test. -/
  | one (test : Char → Bool)
  /-- A number of characters that pass a test; the fewest first if `lazy`, else the most first. -/
  | span (test : Char → Bool) (least : Nat) (most : Option Nat) (lazy : Bool)
  /-- A condition on the place. -/
  | place (cond : Place)
  /-- One pattern after the other. -/
  | seq (p q : Pattern)
  /-- One pattern or else the other. -/
  | either (p q : Pattern)
  /-- A pattern repeated; as few rounds as will do if `lazy`, else as many. -/
  | loop (p : Pattern) (least : Nat) (most : Option Nat) (lazy : Bool)
  /-- A pattern repeated as often as it matches, with no second thoughts. -/
  | seize (p : Pattern) (least : Nat) (most : Option Nat)
  /-- A numbered group. -/
  | group (n : Nat) (p : Pattern)
  /-- A pattern with no second thoughts. -/
  | once (p : Pattern)
  /-- The text that follows matches, or with `wanted := false` does not. -/
  | ahead (p : Pattern) (wanted : Bool)
  /-- The text of the given width in front of the place matches, or does not. -/
  | behind (p : Pattern) (width : Nat) (wanted : Bool)
  /-- The text of a group once more. -/
  | again (n : Nat) (same : Char → Char → Bool)
  /-- One pattern if the group took part, else the other. -/
  | ifGroup (n : Nat) (yes no : Pattern)

namespace Pattern

/-- What is left to match behind a place. -/
abbrev Rest := Cursor → Option Cursor

/-- The first match of a pattern at a place. -/
abbrev Matcher := Cursor → Rest → Option Cursor

/-- Exactly `n` rounds. -/
def rounds (body : Matcher) : Nat → Matcher
  | 0, s, k => k s
  | n + 1, s, k => body s fun t => rounds body n t k

/-- At most `n` rounds. A round that would start where the last one did is not made; `last` is the
place of the last one. -/
def moreRounds (body : Matcher) (lazy : Bool) : Nat → Option Nat → Matcher
  | 0, _, s, k => k s
  | n + 1, last, s, k =>
    if last == some s.left then k s
    else if lazy then
      match k s with
      | some t => some t
      | none => body s fun t => moreRounds body lazy n (some s.left) t k
    else
      match body s fun t => moreRounds body lazy n (some s.left) t k with
      | some t => some t
      | none => k s

/-- At most `n` rounds, each matched for itself. -/
def seizeRounds (body : Matcher) : Nat → Option Nat → Cursor → Cursor
  | 0, _, s => s
  | n + 1, last, s =>
    if last == some s.left then s
    else
      match body s some with
      | some t => seizeRounds body n (some s.left) t
      | none => s

/-- How many rounds can follow `least` rounds at a place: every one but the first has to start further
on than the one before it. -/
def spare (least : Nat) (most : Option Nat) (s : Cursor) : Nat :=
  match most with
  | some n => min (n - least) (s.left + 1)
  | none => s.left + 1

/-- The first match of the pattern at a place after which `k` succeeds. -/
def run : Pattern → Matcher
  | empty, s, k => k s
  | one test, s, k => (s.step? test).bind k
  | span test least most lazy, s, k =>
    let places := (s.span test most).drop least
    (if lazy then places else places.reverse).findSome? k
  | place cond, s, k => if cond.holds s then k s else none
  | seq p q, s, k => p.run s fun t => q.run t k
  | either p q, s, k =>
    match p.run s k with
    | some t => some t
    | none => q.run s k
  | loop p least most lazy, s, k =>
    rounds p.run least s fun t => moreRounds p.run lazy (spare least most t) none t k
  | seize p least most, s, k =>
    (rounds (fun t l => (p.run t some).bind l) least s some).bind fun t =>
      k (seizeRounds p.run (spare least most t) none t)
  | group n p, s, k => p.run (s.openGroup n) fun t => k (t.closeGroup n)
  | once p, s, k => (p.run s some).bind k
  | ahead p wanted, s, k =>
    match p.run s some with
    | some t => if wanted then k { s with marks := t.marks } else none
    | none => if wanted then none else k s
  | behind p width wanted, s, k =>
    match (s.back? width).bind fun t => p.run t some with
    | some t => if wanted then k { s with marks := t.marks } else none
    | none => if wanted then none else k s
  | again n same, s, k => ((s.group? n).bind fun text => s.follow? same text).bind k
  | ifGroup n yes no, s, k => if (s.group? n).isSome then yes.run s k else no.run s k

/-- A match: the places where it starts and stops. -/
structure Found where
  start : Cursor
  stop : Cursor

namespace Found

/-- The number of characters matched. -/
def length (m : Found) : Nat :=
  m.start.left - m.stop.left

/-- The text of a group, empty if it did not take part. -/
def group (m : Found) (n : Nat) : List Char :=
  (m.stop.group? n).getD []

end Found

/-- The match at a place. -/
def matchAt? (p : Pattern) (s : Cursor) : Option Found :=
  (p.run { s with marks := [] } some).map fun t => { start := s, stop := t }

/-- The first match at a place or further on; `after` is the text from the place on. -/
def findFrom? (p : Pattern) (s : Cursor) : List Char → Option Found
  | [] => p.matchAt? s
  | c :: rest =>
    match p.matchAt? s with
    | some m => some m
    | none => findFrom? p { s with before := c :: s.before, after := rest, left := s.left - 1 } rest

/-- The first match in a text from a place on. -/
def findAt? (p : Pattern) (s : Cursor) : Option Found :=
  p.findFrom? s s.after

/-- The first match in a text. -/
def find? (p : Pattern) (text : List Char) : Option Found :=
  p.findAt? (.ofText text)

/-- The pattern matches somewhere in the text. -/
def occursIn (p : Pattern) (text : List Char) : Bool :=
  (p.find? text).isSome

/-- At most `n` matches from a place on, each further on than the one before it. A match of no
characters ends the list. -/
def findUpTo (p : Pattern) : Nat → Cursor → List Found
  | 0, _ => []
  | n + 1, s =>
    match p.findAt? s with
    | none => []
    | some m => if m.stop.left < m.start.left then m :: findUpTo p n m.stop else []

/-- The matches in a text, from left to right, without overlap. -/
def findAll (p : Pattern) (text : List Char) : List Found :=
  p.findUpTo (text.length + 1) (.ofText text)

/-- How often the pattern matches in a text. -/
def count (p : Pattern) (text : List Char) : Nat :=
  (p.findAll text).length

end Pattern

end RiskGauge
