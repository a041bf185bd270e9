import RiskGauge.Pattern.Atom
import RiskGauge.Text.CharName
import RiskGauge.Text.Identifier
import RiskGauge.Text.Integer

/-!
# Reading patterns

The notation of patterns: characters stand for themselves, `.` for any character of a line, `[…]` for
one of a set, `\` for classes and special characters; `( )` groups, `|` separates alternatives, and
`* + ? {m,n}` repeat what stands before them, lazily with `?` behind them and without second thoughts
with `+`. `(?…)` introduces look-around, conditions, comments, names and flags. Alternatives of one
character each are a set.

`Pattern.read` gives the pattern, or a `Fault`.
-/

namespace RiskGauge.Pattern

/-- Why a text is not a pattern. -/
inductive Fault where
  /-- It does not follow the notation. -/
  | malformed
  /-- A count of repetitions is too large. -/
  | countTooLarge
  /-- A count of repetitions has too many digits. -/
  | countTooLong (digits : Nat)
  /-- It asks for letters of ASCII alone and of Unicode at once. -/
  | clashingFlags
  /-- Its parts are nested too deep. -/
  | tooDeep
deriving DecidableEq, Repr

/-- The wording of the fault. -/
def Fault.message : Fault → String
  | malformed => "malformed pattern"
  | countTooLarge => "the repetition number is too large"
  | countTooLong digits => Text.IntegerFault.message (.tooLong digits)
  | clashingFlags => "ASCII and UNICODE flags are incompatible"
  | tooDeep => "maximum recursion depth exceeded"

namespace Reader

/-- A character of the notation, or one behind a backslash. -/
inductive Token where
  | plain (c : Char)
  | escaped (c : Char)
  /-- A backslash at the end. -/
  | dangling
deriving DecidableEq

/-- The tokens of a text. -/
def tokens : List Char → List Token
  | [] => []
  | ['\\'] => [.dangling]
  | '\\' :: c :: rest => .escaped c :: tokens rest
  | c :: rest => .plain c :: tokens rest

/-- The characters that a token was made of. -/
def Token.chars : Token → List Char
  | .plain c => [c]
  | .escaped c => ['\\', c]
  | .dangling => ['\\']

/-- The least and the greatest number of characters that a pattern can match; no greatest number is
`none`. -/
structure Width where
  least : Nat
  most : Option Nat

namespace Width

/-- Widths beyond this bound are not told apart. -/
def bound : Nat := 0x10000000000000000

/-- A fixed width. -/
def exact (n : Nat) : Width := ⟨n, some n⟩

/-- The width of one pattern after the other. -/
def add (a b : Width) : Width :=
  ⟨a.least + b.least, do return (← a.most) + (← b.most)⟩

/-- The width of one pattern or the other. -/
def join (a b : Width) : Width :=
  ⟨min a.least b.least, do return max (← a.most) (← b.most)⟩

/-- The width of a repeated pattern. No rounds, or rounds of no characters, have no characters. -/
def times (a : Width) (least : Nat) (most : Option Nat) : Width :=
  ⟨a.least * least,
    match a.most, most with
    | some 0, _ | _, some 0 => some 0
    | some w, some n => some (w * n)
    | _, _ => none⟩

/-- The one width that all matches have. -/
def fixed? (a : Width) : Option Nat :=
  let least := min a.least bound
  let most := match a.most with | some w => min w bound | none => bound
  if least == most && least < 0x100000000 then some least else none

end Width

/-- What may be repeated. -/
inductive ItemKind where
  /-- A condition on the place, which cannot be repeated. -/
  | condition
  /-- Something repeated already. -/
  | repeated
  | other
deriving DecidableEq

/-- A piece of a pattern. -/
structure Item where
  pattern : Pattern
  width : Width
  kind : ItemKind := .other
  /-- The atoms that it consists of, in order; `none` for parts that are not atoms. -/
  atoms : List (Option Atom) := [none]
  /-- The atom that it begins with, in a group or not, and the flags of that atom. -/
  front : Option (Flags × Atom) := none
  /-- How many parts of it are nested in one another. -/
  height : Nat := 0

/-- What is known in the middle of reading. -/
structure State where
  /-- What is still to read. -/
  tokens : List Token
  /-- The flags of the whole pattern. -/
  flags : Flags := {}
  /-- The widths of the groups begun so far, in order; `none` while a group is open. -/
  groups : List (Option Width) := []
  names : List (String × Nat) := []
  /-- Inside a look-behind: the number of groups begun before it. -/
  outside : Option Nat := none
  /-- The groups on which conditions depend. -/
  conditions : List Nat := []
  /-- Something was read that cannot be matched. -/
  unusable : Bool := false

/-- Readers of parts of a pattern. -/
abbrev Read := StateT State (Except Fault)

/-- The text does not follow the notation. -/
def malformed {α : Type} : Read α := throw .malformed

/-- The next token. -/
def peek : Read (Option Token) := return (← get).tokens.head?

/-- Takes the next token. A backslash at the end is refused as soon as it comes next. -/
def next : Read (Option Token) := do
  match (← get).tokens with
  | [] => return none
  | t :: rest =>
    if rest.head? == some .dangling then malformed
    modify ({ · with tokens := rest })
    return some t

/-- Takes the next token if it is the given character. -/
def accept (c : Char) : Read Bool := do
  if (← peek) == some (.plain c) then
    let _ ← next
    return true
  else return false

/-- The next token has to be the given character. -/
def expect (c : Char) : Read Unit := do
  unless ← accept c do malformed

/-- Takes at most `n` characters that pass the test. -/
def takeChars (test : Char → Bool) : Nat → Read (List Char)
  | 0 => return []
  | n + 1 => do
    match ← peek with
    | some (.plain c) =>
      if test c then
        let _ ← next
        return c :: (← takeChars test n)
      else return []
    | _ => return []

/-- Takes everything up to a closing character, which has to come and not at once. -/
def takeUntil (close : Char) : Nat → List Char → Read (List Char)
  | 0, _ => malformed
  | n + 1, taken => do
    match ← next with
    | none => malformed
    | some t =>
      if t == .plain close then
        if taken.isEmpty then malformed else return taken
      else takeUntil close n (taken ++ t.chars)

/-- The number of tokens left, a bound for every loop over them. -/
def size : Read Nat := return (← get).tokens.length + 1

/-! ### Characters and sets -/

/-- The control character that a letter behind a backslash stands for. -/
def control? : Char → Option Nat
  | 'a' => some 7
  | 'b' => some 8
  | 'f' => some 12
  | 'n' => some 10
  | 'r' => some 13
  | 't' => some 9
  | 'v' => some 11
  | '\\' => some 92
  | _ => none

/-- The value of a hexadecimal digit. -/
def hexValue? (c : Char) : Option Nat :=
  Text.hexDigit? (Text.upperAscii c)

/-- Exactly `n` hexadecimal digits. -/
def hexCode (n : Nat) : Read Nat := do
  let digits ← takeChars (fun c => (hexValue? c).isSome) n
  unless digits.length == n do malformed
  return digits.foldl (fun v c => 16 * v + (hexValue? c).getD 0) 0

/-- An octal digit. -/
def isOctal (c : Char) : Bool := '0' ≤ c && c ≤ '7'

/-- The value of octal digits. -/
def octalValue (digits : List Char) : Nat :=
  digits.foldl (fun v c => 8 * v + (c.toNat - 48)) 0

/-- The code of the character whose name stands between braces. -/
def namedCode : Read Nat := do
  expect '{'
  match Text.charNamed? (← takeUntil '}' (← size) []) with
  | some n => return n
  | none => malformed

/-- The code that stands behind `\x`, `\u`, `\U` or `\N`. -/
def codeEscape? (c : Char) : Option (Read Nat) :=
  match c with
  | 'x' => some (hexCode 2)
  | 'u' => some (hexCode 4)
  | 'U' => some do
    let n ← hexCode 8
    if 0x10FFFF < n then malformed
    return n
  | 'N' => some namedCode
  | _ => none

/-- The letter stands for a class behind a backslash. -/
def isKlass (c : Char) : Bool :=
  "dDsSwW".toList.contains c

/-- What a backslash and a character mean inside a set. -/
def setEscape (c : Char) : Read Member := do
  if let some n := control? c then return .code n
  if isKlass c then return .klass c
  if let some code := codeEscape? c then return .code (← code)
  if isOctal c then
    let digits := c :: (← takeChars isOctal 2)
    let n := octalValue digits
    if 0o377 < n then malformed
    return .code n
  if Text.isAsciiAlnum c then malformed
  return .code c.toNat

/-- One part of a set, given its first token. -/
def setPart : Token → Read Member
  | .plain c => return .code c.toNat
  | .escaped c => setEscape c
  | .dangling => malformed

/-- The parts of a set up to the closing bracket; `found` are those read so far, last first. -/
def setParts : Nat → List Member → Read (List Member)
  | 0, _ => malformed
  | n + 1, found => do
    match ← next with
    | none => malformed
    | some t =>
      if t == .plain ']' && !found.isEmpty then return found
      let part ← setPart t
      if ← accept '-' then
        match ← next with
        | none => malformed
        | some u =>
          if u == .plain ']' then return .code '-'.toNat :: part :: found
          match part, ← setPart u with
          | .code first, .code last =>
            if last < first then malformed
            setParts n (.range first last :: found)
          | _, _ => malformed
      else setParts n (part :: found)

/-- A set of characters, behind the opening bracket. -/
def charSet : Read Atom := do
  let negated ← accept '^'
  let parts ← setParts (← size) []
  return .ofMembers negated parts.reverse

/-! ### Groups -/

/-- An atom as a piece of a pattern. -/
def atomItem (flags : Flags) (atom : Atom) (width : Width) (kind : ItemKind := .other) : Item :=
  { pattern := atom.pattern flags, width, kind, atoms := [some atom], front := some (flags, atom) }

/-- An atom of one character. -/
def oneItem (flags : Flags) (atom : Atom) : Item :=
  atomItem flags atom (.exact 1)

/-- The character with the given code. -/
def codeItem (flags : Flags) (n : Nat) : Item :=
  oneItem flags (.code false n)

/-- A condition on the place. -/
def anchorItem (flags : Flags) (sign : Anchor) : Item :=
  atomItem flags (.anchor sign) (.exact 0) .condition

/-- A group that is closed. -/
def closed? (n : Nat) : Read (Option Width) :=
  return ((← get).groups[n - 1]?).join

/-- Inside a look-behind a group has to be closed and to lie outside. -/
def checkOutside (n : Nat) : Read Unit := do
  if let some limit := (← get).outside then
    if (← closed? n).isNone then malformed
    if limit < n then malformed

/-- The text of a group once more. -/
def backReference (flags : Flags) (n : Nat) : Read Item := do
  match ← closed? n with
  | none => malformed
  | some width =>
    checkOutside n
    return atomItem flags (.again n) width

/-- What a backslash and a digit mean: the code of a character in octal, or a group. -/
def digitEscape (flags : Flags) (c : Char) : Read Item := do
  if c == '0' then
    let digits ← takeChars isOctal 2
    return codeItem flags (octalValue digits)
  let second ← takeChars Text.isAsciiDigit 1
  if isOctal c && !second.isEmpty && second.all isOctal then
    let third ← takeChars isOctal 1
    if !third.isEmpty then
      let n := octalValue (c :: second ++ third)
      if 0o377 < n then malformed
      return codeItem flags n
  backReference flags (Text.digitsValue (c :: second))

/-- What a backslash and a character mean outside of sets. -/
def escape (flags : Flags) (c : Char) : Read Item := do
  match c with
  | 'A' => return anchorItem flags .textStart
  | 'Z' => return anchorItem flags .textEnd
  | 'b' => return anchorItem flags .wordEdge
  | 'B' => return anchorItem flags .noWordEdge
  | _ =>
    if isKlass c then return oneItem flags (.set false [.klass c])
    if let some n := control? c then return codeItem flags n
    if let some code := codeEscape? c then return codeItem flags (← code)
    if Text.isAsciiDigit c then digitEscape flags c
    else if Text.isAsciiLetter c then malformed
    else return codeItem flags c.toNat

/-- The number of a named group. -/
def named? (name : List Char) : Read (Option Nat) :=
  return (← get).names.lookup (String.ofList name)

/-- Begins a group and gives its number. -/
def openGroup (name : Option (List Char)) : Read Nat := do
  let s ← get
  let n := s.groups.length + 1
  if let some name := name then
    if (← named? name).isSome then malformed
    modify fun s => { s with names := (String.ofList name, n) :: s.names }
  modify fun s => { s with groups := s.groups ++ [none] }
  return n

/-- Ends a group. -/
def closeGroup (n : Nat) (width : Width) : Read Unit :=
  modify fun s => { s with groups := s.groups.set (n - 1) (some width) }

/-- The flag that a letter stands for. -/
inductive Flag where
  | anyCase | multiline | dotAll | spaced | ascii | unicode | template
deriving DecidableEq

/-- The flag that a letter stands for. -/
def flag? : Char → Option Flag
  | 'i' => some .anyCase
  | 'm' => some .multiline
  | 's' => some .dotAll
  | 'x' => some .spaced
  | 'a' => some .ascii
  | 'u' => some .unicode
  | 't' => some .template
  | _ => none

/-- Sets or clears a flag. -/
def withFlag (f : Flags) (on : Bool) : Flag → Flags
  | .anyCase => { f with anyCase := on }
  | .multiline => { f with multiline := on }
  | .dotAll => { f with dotAll := on }
  | .spaced => { f with spaced := on }
  | .ascii => { f with ascii := on }
  | .unicode => { f with unicode := on }
  | .template => { f with template := on }

/-- The flags inside a group that switches some on and some off. -/
def flagsInside (f : Flags) (on off : List Flag) : Flags :=
  let f := if on.contains .ascii || on.contains .unicode then { f with ascii := false, unicode := false } else f
  off.foldl (withFlag · false ·) (on.foldl (withFlag · true ·) f)

/-- Letters for flags up to one of the closing characters, which is given too. -/
def flagLetters (closing : List Char) : Nat → Token → List Flag → Read (List Flag × Char)
  | 0, _, _ => malformed
  | n + 1, t, found => do
    match t with
    | .plain c =>
      match flag? c with
      | none => malformed
      | some flag =>
        let found := flag :: found
        match ← next with
        | some (.plain d) =>
          if closing.contains d then return (found, d) else flagLetters closing n (.plain d) found
        | _ => malformed
    | _ => malformed

/-- What follows `(?` and a flag or a minus. -/
inductive FlagGroup where
  /-- Flags for the whole pattern. -/
  | whole (on : List Flag)
  /-- Flags for a group. -/
  | inside (on off : List Flag)

/-- Flags that are switched off, and the colon behind them. -/
def flagsOff (on : List Flag) : Read FlagGroup := do
  match ← next with
  | none => malformed
  | some t =>
    let (off, _) ← flagLetters [':'] (← size) t []
    if off.contains .ascii || off.contains .unicode || off.contains .template then malformed
    if on.any off.contains then malformed
    return .inside on off

/-- Flags, given their first character. -/
def flagGroup (first : Char) : Read FlagGroup := do
  if first == '-' then flagsOff []
  else
    let (on, close) ← flagLetters [')', '-', ':'] (← size) (.plain first) []
    if on.contains .ascii && on.contains .unicode then malformed
    if close == ')' then return .whole on
    if on.contains .template then malformed
    if close == '-' then flagsOff on else return .inside on []

/-! ### Repetition -/

/-- The least count that is refused. -/
def countBound : Nat := 4294967295

/-- A count of repetitions; `none` if it has no digits. -/
def count? (digits : List Char) : Read (Option Nat) := do
  if digits.isEmpty then return none
  match Text.readDigits digits with
  | .error _ => throw (.countTooLong digits.length)
  | .ok n => if countBound ≤ n then throw .countTooLarge else return some n

/-- The bounds between braces, behind the opening brace; `none` if the brace stands for itself. -/
def bounds? : Read (Option (Nat × Option Nat)) := do
  let before ← get
  if before.tokens.head? == some (.plain '}') then return none
  let low ← takeChars Text.isAsciiDigit (← size)
  let more ← accept ','
  let high ← if more then takeChars Text.isAsciiDigit (← size) else pure low
  if ← accept '}' then
    let least := (← count? low).getD 0
    let most ← count? high
    if most.any (· < least) then malformed
    return some (least, most)
  else
    set before
    return none

/-- The pattern repeated. -/
def repeatItem (item : Item) (least : Nat) (most : Option Nat) : Read Item := do
  unless item.kind == .other do malformed
  modify fun s => { s with unusable := s.unusable || s.flags.template }
  let width := item.width.times least most
  let height := item.height + 1
  if ← accept '?' then
    return { pattern := repeated item.pattern least most true, width, height, kind := .repeated }
  if ← accept '+' then
    return { pattern := .seize item.pattern least most, width, height, kind := .repeated }
  return { pattern := repeated item.pattern least most false, width, height, kind := .repeated }
where
  repeated (p : Pattern) (least : Nat) (most : Option Nat) (lazy : Bool) : Pattern :=
    match p with
    | .one test => .span test least most lazy
    | p => .loop p least most lazy

/-- The items one after the other, given last first. -/
def join (items : List Item) : Item :=
  items.foldl
    (fun rest item =>
      { pattern := match rest.pattern with | .empty => item.pattern | p => .seq item.pattern p
        width := item.width.add rest.width
        atoms := item.atoms ++ rest.atoms
        front := if item.atoms.isEmpty then rest.front else item.front
        height := max item.height rest.height })
    { pattern := .empty, width := .exact 0, atoms := [] }

/-- The atoms that all lists begin with. -/
def commonFront : List (Option Atom) → List (List (Option Atom)) → List Atom
  | some atom :: rest, others =>
    if others.all (·.head? == some (some atom)) then atom :: commonFront rest (others.map List.tail) else []
  | _, _ => []

/-- The set that atoms form, if each of the lists has one and it can be part of a set. -/
def merged? (atoms : List (List (Option Atom))) : Option Atom := do
  let members ← atoms.mapM fun
    | [some atom] => atom.members?
    | _ => none
  return .set false members.flatten.eraseDups

/-- One of the alternatives, each of them read already. Behind what all of them begin with, alternatives of one
character each are one set. -/
def choose (flags : Flags) (first : Item) (others : List Item) : Item :=
  let front := commonFront first.atoms (others.map (·.atoms))
  let width := others.foldl (fun width item => width.join item.width) first.width
  match merged? ((first :: others).map fun item => item.atoms.drop front.length) with
  | some set => { join ((set :: front.reverse).map (atomItem flags · (.exact 1))) with width }
  | none =>
    { pattern := .any ((first :: others).map (·.pattern)), width, atoms := front.map some ++ [none]
      front := front.head?.map (flags, ·)
      height := others.foldl (fun height item => max height item.height) first.height + 1 }

/-! ### The whole notation -/

/-- What surrounds a part of a pattern. -/
structure Context where
  flags : Flags
  /-- The part is not inside any parentheses. -/
  outermost : Bool
  /-- Nothing but flags and comments was read before it. -/
  first : Bool

/-- A part of a pattern that is read by recursion. -/
inductive Part where
  /-- Alternatives, up to a closing parenthesis. -/
  | alternatives
  /-- One alternative. -/
  | alternative

/-- Skips a comment in a pattern that is laid out with blanks: the rest of the line. -/
def skipLine : Nat → Read Unit
  | 0 => return
  | n + 1 => do
    match ← next with
    | none => return
    | some t => if t == .plain '\n' then return else skipLine n

/-- Skips a comment between parentheses. -/
def skipComment : Nat → Read Unit
  | 0 => malformed
  | n + 1 => do
    match ← next with
    | none => malformed
    | some t => if t == .plain ')' then return else skipComment n

/-- The contents of a group, and its closing parenthesis. -/
def groupBody (inner : Part → Context → Read Item) (flags : Flags) : Read Item := do
  let item ← inner .alternatives { flags, outermost := false, first := false }
  expect ')'
  return item

/-- A look-around. -/
def lookAround (inner : Part → Context → Read Item) (flags : Flags) (behind wanted : Bool) : Read Item := do
  let before := (← get).outside
  if behind && before.isNone then modify fun s => { s with outside := some s.groups.length }
  let item ← inner .alternatives { flags, outermost := false, first := false }
  if behind then modify ({ · with outside := before })
  expect ')'
  let height := item.height + 1
  if behind then
    match item.width.fixed? with
    | some width => return { pattern := .behind item.pattern width wanted, width := .exact 0, height }
    | none =>
      modify ({ · with unusable := true })
      return { pattern := .empty, width := .exact 0, height }
  else return { pattern := .ahead item.pattern wanted, width := .exact 0, height }

/-- The group on which a condition depends, given by name or number. -/
def conditionGroup : Read Nat := do
  let text ← takeUntil ')' (← size) []
  if Text.isIdentifier text then
    match ← named? text with
    | some n => return n
    | none => malformed
  else
    match Text.readInteger text with
    | .ok (.ofNat (n + 1)) =>
      modify fun s => { s with conditions := (n + 1) :: s.conditions }
      return n + 1
    | _ => malformed

/-- A condition on a group. -/
def conditional (inner : Part → Context → Read Item) (flags : Flags) : Read Item := do
  let n ← conditionGroup
  checkOutside n
  let context : Context := { flags, outermost := false, first := false }
  let yes ← inner .alternative context
  if ← accept '|' then
    let no ← inner .alternative context
    if (← peek) == some (.plain '|') then malformed
    expect ')'
    return { pattern := .ifGroup n yes.pattern no.pattern, width := yes.width.join no.width
             height := max yes.height no.height + 1 }
  else
    expect ')'
    return { pattern := .ifGroup n yes.pattern .empty, width := { yes.width with least := 0 }
             height := yes.height + 1 }

/-- A numbered group. -/
def numbered (inner : Part → Context → Read Item) (flags : Flags) (name : Option (List Char)) : Read Item := do
  let n ← openGroup name
  let item ← groupBody inner flags
  closeGroup n item.width
  return { pattern := .group n item.pattern, width := item.width, front := item.front, height := item.height + 1 }

/-- What stands behind an opening parenthesis: an item, or nothing for comments and flags. -/
def group (inner : Part → Context → Read Item) (context : Context) (alone : Bool) : Read (Option Item) := do
  let flags := context.flags
  unless ← accept '?' do return some (← numbered inner flags none)
  match ← next with
  | some (.plain ':') => return some { ← groupBody inner flags with kind := .other }
  | some (.plain '>') =>
    let item ← groupBody inner flags
    return some { pattern := .once item.pattern, width := item.width, height := item.height + 1 }
  | some (.plain '#') =>
    skipComment (← size)
    return none
  | some (.plain '=') => return some (← lookAround inner flags false true)
  | some (.plain '!') => return some (← lookAround inner flags false false)
  | some (.plain '<') =>
    match ← next with
    | some (.plain '=') => return some (← lookAround inner flags true true)
    | some (.plain '!') => return some (← lookAround inner flags true false)
    | _ => malformed
  | some (.plain '(') => return some (← conditional inner flags)
  | some (.plain 'P') =>
    if ← accept '<' then
      let name ← takeUntil '>' (← size) []
      unless Text.isIdentifier name do malformed
      return some (← numbered inner flags (some name))
    else if ← accept '=' then
      let name ← takeUntil ')' (← size) []
      unless Text.isIdentifier name do malformed
      match ← named? name with
      | some n => return some (← backReference flags n)
      | none => malformed
    else malformed
  | some (.plain c) =>
    match ← flagGroup c with
    | .whole on =>
      unless context.first && alone do malformed
      modify fun s => { s with flags := on.foldl (withFlag · true ·) s.flags }
      return none
    | .inside on off =>
      let item ← groupBody inner (flagsInside flags on off)
      return some { item with kind := .other, atoms := [none], height := item.height + 1 }
  | _ => malformed

/-- The items of one alternative; `items` are those read so far, last first. Flags for the whole
pattern take effect at once. -/
def items (inner : Part → Context → Read Item) : Nat → Context → List Item → Read (List Item)
  | 0, _, _ => malformed
  | n + 1, context, found => do
    let whole := (← get).flags
    let flags := if context.outermost then whole else context.flags
    let context := { context with flags }
    let again (found : List Item) := items inner n context found
    match ← peek with
    | none => return found
    | some (.plain '|') => return found
    | some (.plain ')') => return found
    | some t =>
      let _ ← next
      match t with
      | .dangling => malformed
      | .escaped c => again ((← escape flags c) :: found)
      | .plain c =>
        if flags.spaced && isAsciiBlank c then again found
        else if flags.spaced && c == '#' then
          skipLine (← size)
          again found
        else
          match c with
          | '[' => again (oneItem flags (← charSet) :: found)
          | '.' => again (oneItem flags .anyChar :: found)
          | '^' => again (anchorItem flags .start :: found)
          | '$' => again (anchorItem flags .stop :: found)
          | '(' =>
            match ← group inner context found.isEmpty with
            | some item => again (item :: found)
            | none => again found
          | _ =>
            let bounds ←
              match c with
              | '*' => pure (some (0, none))
              | '+' => pure (some (1, none))
              | '?' => pure (some (0, some 1))
              | '{' => bounds?
              | _ => pure none
            match bounds, found with
            | none, _ => again (codeItem flags c.toNat :: found)
            | some _, [] => malformed
            | some (least, most), item :: others =>
              again ((← repeatItem item least most) :: others)

/-- The alternatives from here on. -/
def alternatives (inner : Part → Context → Read Item) : Nat → Context → Read (List Item)
  | 0, _ => malformed
  | n + 1, context => do
    let item := join (← items inner (← size) context [])
    if ← accept '|' then return item :: (← alternatives inner n { context with first := false })
    else return [item]

/-- Parts of a pattern. Each of them takes up room while it is read: alternatives two places, and one alternative one. -/
def part : Nat → Part → Context → Read Item
  | room + 2, .alternatives, context => do
    match ← alternatives (part room) (← size) context with
    | first :: other :: others =>
      let whole := (← get).flags
      return choose (if context.outermost then whole else context.flags) first (other :: others)
    | items => return join items
  | room + 1, .alternative, context => do return join (← items (part room) (← size) context [])
  | _, _, _ => throw .tooDeep

/-- The room for parts of a pattern. A thousand calls may be under way at once: fifteen are before the first part is read,
and reading a token takes two. -/
def room : Nat := 983

end Reader

open Reader in
/-- The pattern that a text stands for, with case disregarded unless the text says otherwise. -/
def read (text : List Char) : Except Fault Pattern := do
  let tokens := tokens text
  if tokens.head? == some .dangling then throw .malformed
  let start : State := { tokens }
  let (item, s) ← (part room .alternatives { flags := start.flags, outermost := true, first := true }).run start
  if s.flags.ascii && s.flags.unicode then throw .clashingFlags
  unless s.tokens.isEmpty do throw .malformed
  if s.conditions.any (s.groups.length < ·) then throw .malformed
  if room < item.height + 2 then throw .tooDeep
  if s.unusable then throw .malformed
  match item.front.bind fun (flags, atom) => atom.frontTest? s.flags flags with
  | some test => return .seq (.ahead (.one test) true) item.pattern
  | none => return item.pattern

end RiskGauge.Pattern
