import RiskGauge.Pattern.Build

/-!
# Atoms of patterns

What the notation of patterns writes with one sign: a character, a set of characters, a condition on the place, or the text
of a group once more. Atoms can be compared, so that alternatives can share what they begin with. What an atom matches
depends on the flags (`Atom.pattern`).

With case disregarded, a set takes a character beyond the basic plane only as a small letter. A range that goes on beyond
the basic plane takes the capitals of all scripts into account, even where other letters are those of ASCII alone. A search
first looks for a character of the set that a pattern begins with (`Atom.frontTest?`).
-/

namespace RiskGauge.Pattern

/-- How characters are compared and what the special characters mean. -/
structure Flags where
  anyCase : Bool := true
  multiline : Bool := false
  dotAll : Bool := false
  spaced : Bool := false
  ascii : Bool := false
  unicode : Bool := false
  template : Bool := false

/-- A blank of ASCII. -/
def isAsciiBlank (c : Char) : Bool :=
  c == ' ' || (9 ≤ c.toNat && c.toNat ≤ 13)

/-- A letter or digit of ASCII, or an underscore. -/
def isAsciiWord (c : Char) : Bool :=
  Text.isAsciiAlnum c || c == '_'

namespace Flags

/-- The small letter of a character. -/
def lower (flags : Flags) : Char → Char :=
  if flags.ascii then Text.lowerAscii else Text.lower

/-- The two characters are the same in a text that is repeated. -/
def same (flags : Flags) (a b : Char) : Bool :=
  if flags.anyCase then flags.lower a == flags.lower b else a == b

/-- The word characters. -/
def isWord (flags : Flags) : Char → Bool :=
  if flags.ascii then isAsciiWord else Text.isWord

/-- The class that a letter behind a backslash stands for. -/
def klass? (flags : Flags) : Char → Option (Char → Bool)
  | 'd' => some (if flags.ascii then Text.isAsciiDigit else Text.isDigit)
  | 'D' => some fun c => !(if flags.ascii then Text.isAsciiDigit c else Text.isDigit c)
  | 's' => some (if flags.ascii then isAsciiBlank else Text.isBlank)
  | 'S' => some fun c => !(if flags.ascii then isAsciiBlank c else Text.isBlank c)
  | 'w' => some flags.isWord
  | 'W' => some fun c => !flags.isWord c
  | _ => none

/-- The character is a small letter or a capital. -/
def isCased (flags : Flags) (c : Char) : Bool :=
  if flags.ascii then Text.isAsciiLetter c else Text.lower c != c || Text.upper c != c

/-- The character is the one with the given code. -/
def codeTest (flags : Flags) (n : Nat) (c : Char) : Bool :=
  if flags.anyCase then
    Nat.isValidChar n &&
      (if flags.ascii then Text.lowerAscii c == Text.lowerAscii (Char.ofNat n) else Text.sameLetter (Char.ofNat n) c)
  else c.toNat == n

/-- The character lies in a range. -/
def rangeTest (flags : Flags) (first last : Nat) (c : Char) : Bool :=
  let inside (d : Char) := first ≤ d.toNat && d.toNat ≤ last
  if flags.anyCase then
    let small := flags.lower c
    (if flags.ascii then inside small || inside (Text.upperAscii small) else oneAnyCase inside c) ||
      (0x10000 ≤ last && inside (Text.upper small))
  else inside c

end Flags

/-- Part of a set of characters. -/
inductive Member where
  | code (n : Nat)
  | range (first last : Nat)
  /-- A class, given by its letter. -/
  | klass (letter : Char)
deriving DecidableEq

/-- The character belongs to a part of a set. -/
def Member.holds (flags : Flags) (c : Char) : Member → Bool
  | code n => if flags.anyCase && 0x10000 ≤ n then (flags.lower c).toNat == n else flags.codeTest n c
  | range first last => flags.rangeTest first last c
  | klass letter => (flags.klass? letter).any fun test => test c

/-- Case is disregarded, and it matters for the part of a set; it is said to matter beyond the basic plane. -/
def Member.isCased (flags : Flags) : Member → Bool
  | code n => flags.anyCase && flags.isCased (Char.ofNat n)
  | range first last => flags.anyCase &&
    (0xFFFF < last || (List.range (last + 1 - first)).any fun i => flags.isCased (Char.ofNat (first + i)))
  | klass _ => false

/-- Signs for conditions on the place. -/
inductive Anchor where
  /-- The start of the text, or of a line if the pattern goes line by line. -/
  | start
  /-- The end of the text with or without a line feed, or of a line if the pattern goes line by line. -/
  | stop
  | textStart
  | textEnd
  | wordEdge
  | noWordEdge
deriving DecidableEq

/-- The condition that a sign stands for. -/
def Anchor.place (flags : Flags) : Anchor → Place
  | start => if flags.multiline then .lineStart else .textStart
  | stop => if flags.multiline then .lineEnd else .lastLineEnd
  | textStart => .textStart
  | textEnd => .textEnd
  | wordEdge => .wordEdge flags.isWord true
  | noWordEdge => .wordEdge flags.isWord false

/-- What the notation writes with one sign. -/
inductive Atom where
  /-- A character, or any other one. -/
  | code (negated : Bool) (n : Nat)
  /-- A character of a set, or any other one. -/
  | set (negated : Bool) (members : List Member)
  /-- Any character of a line. -/
  | anyChar
  | anchor (sign : Anchor)
  /-- The text of a group. -/
  | again (group : Nat)
deriving DecidableEq

namespace Atom

/-- The pattern that an atom stands for. -/
def pattern (flags : Flags) : Atom → Pattern
  | code negated n => .one fun c => flags.codeTest n c != negated
  | set negated members => .one fun c => members.any (·.holds flags c) != negated
  | anyChar => .one fun c => flags.dotAll || c != '\n'
  | anchor sign => .place (sign.place flags)
  | again n => .again n flags.same

/-- A set of the given members. One character alone is no set, even if it is listed twice. -/
def ofMembers (negated : Bool) (members : List Member) : Atom :=
  match members.eraseDups with
  | [.code n] => .code negated n
  | members => .set negated members

/-- The members of an atom that can be one part of a set. -/
def members? : Atom → Option (List Member)
  | code false n => some [.code n]
  | set false members => some members
  | _ => none

/-- What a search asks of the first character, for a pattern that begins with the atom. The classes of a set in which
case does not matter are those of the whole pattern, even if the atom has flags of its own. -/
def frontTest? (whole flags : Flags) : Atom → Option (Char → Bool)
  | set negated members =>
    if whole.ascii == flags.ascii || members.any (·.isCased flags) then none
    else some fun c => members.any (·.holds { whole with anyCase := false } c) != negated
  | _ => none

end Atom

end RiskGauge.Pattern
