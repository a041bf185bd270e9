import RiskGauge.Yaml.ScalarText

/-!
# Tokens of a YAML text

The tokens of a text, and how the ones that carry a name are written: directives, anchors, aliases and tags.
-/

namespace RiskGauge.Yaml

/-- What a directive says. -/
inductive Directive where
  | version (major : Nat)
  | tag (handle target : List Char)
  | unknown
deriving DecidableEq

/-- A token. -/
inductive Token where
  | directive (d : Directive)
  | documentStart
  | documentEnd
  | blockListStart
  | blockMapStart
  | blockEnd
  | flowListStart
  | flowListEnd
  | flowMapStart
  | flowMapEnd
  | key
  | value
  | blockItem
  | flowItem
  | alias (name : List Char)
  | anchor (name : List Char)
  | tag (handle : Option (List Char)) (suffix : List Char)
  | scalar (text : List Char) (plain : Bool)
deriving DecidableEq

namespace Token

/-- A name that is not empty. -/
def name? (p : Position) : Option (List Char × Position) :=
  let (name, p) := p.span isNameChar
  if name.isEmpty then none else some (name, p)

/-- The name of an anchor or an alias whose mark stands here. -/
def reference? (p : Position) : Option (List Char × Position) := do
  let (name, p) ← name? p.next
  if endsWord p.head? || p.head?.any ("?:,]\x7d%@`".toList.contains ·) then return (name, p) else none

/-- A handle of tags: an exclamation mark, or a name between two of them. -/
def handle? (p : Position) : Option (List Char × Position) :=
  if p.head? != some '!' then none
  else if p.peek? 1 == some ' ' then some (['!'], p.next)
  else
    let (name, q) := p.next.span isNameChar
    if q.head? == some '!' then some ('!' :: name ++ ['!'], q.next) else none

/-- A character of the address of a tag. -/
def isAddressChar (c : Char) : Bool :=
  Text.isAsciiAlnum c || "-;/?:@&=+$,_.!~*'()[]".toList.contains c

/-- The bytes of a row of percent signs with two hexadecimal digits each. -/
def addressBytes : Nat → Position → Option (List UInt8 × Position)
  | 0, _ => none
  | fuel + 1, p =>
    if p.head? != some '%' then some ([], p)
    else do
      let a ← (p.peek? 1).bind Quoted.hexValue?
      let b ← (p.peek? 2).bind Quoted.hexValue?
      let (bytes, p) ← addressBytes fuel (p.advance 3)
      return (UInt8.ofNat (16 * a + b) :: bytes, p)

/-- The rest of the address of a tag. -/
def addressRest : Nat → Position → Option (List Char × Position)
  | 0, _ => none
  | fuel + 1, p => do
    let (plain, p) := p.span isAddressChar
    if p.head? != some '%' then return (plain, p)
    let (bytes, p) ← addressBytes (p.rest.length + 1) p
    let text ← String.fromUTF8? ⟨bytes.toArray⟩
    let (more, p) ← addressRest fuel p
    return (plain ++ text.toList ++ more, p)

/-- The address of a tag, which is not empty. -/
def address? (p : Position) : Option (List Char × Position) := do
  let (text, p) ← addressRest (p.rest.length + 1) p
  if text.isEmpty then none else return (text, p)

/-- The tag whose mark stands here. -/
def tag? (p : Position) : Option (Token × Position) := do
  let (token, p) ←
    if p.peek? 1 == some '<' then do
      let (suffix, p) ← address? (p.advance 2)
      if p.head? == some '>' then pure (tag none suffix, p.next) else none
    else if endsWord (p.peek? 1) then pure (tag none ['!'], p.next)
    else if (p.next.rest.takeWhile (fun c => !endsPart (some c))).contains '!' then do
      let (handle, p) ← handle? p
      let (suffix, p) ← address? p
      pure (tag (some handle) suffix, p)
    else do
      let (suffix, p) ← address? p.next
      pure (tag (some ['!']) suffix, p)
  if endsPart p.head? then return (token, p) else none

/-- A whole number of a version. -/
def number? (p : Position) : Option (Nat × Position) :=
  let (digits, p) := p.span Text.isAsciiDigit
  if digits.isEmpty then none else some (digits.foldl (fun n c => 10 * n + (c.toNat - 48)) 0, p)

/-- The directive whose mark stands here, and the place behind its line. -/
def directive? (p : Position) : Option (Token × Position) := do
  let (name, p) ← name? p.next
  if !endsPart p.head? then none
  let (d, p) ←
    if name == "YAML".toList then do
      let (major, p) ← number? (p.skip (· == ' '))
      if p.head? != some '.' then none
      let (_, p) ← number? p.next
      if !endsPart p.head? then none
      pure (Directive.version major, p)
    else if name == "TAG".toList then do
      let (handle, p) ← handle? (p.skip (· == ' '))
      if p.head? != some ' ' then none
      let (target, p) ← address? (p.skip (· == ' '))
      if !endsPart p.head? then none
      pure (Directive.tag handle target, p)
    else pure (Directive.unknown, p.skip (!isBreak ·))
  return (directive d, ← p.endOfLine?)

end Token

end RiskGauge.Yaml
