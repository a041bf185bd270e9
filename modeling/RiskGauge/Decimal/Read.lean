import RiskGauge.Decimal.Binary64
import RiskGauge.Text.Integer

/-!
# Decimal fractions in a text

`readDecimal?` reads a number such as `12`, `.5`, `3.`, `-1.5e-3`, `inf` or `nan`, written with ASCII
digits, as the double nearest to it. The words for infinity and for no number are read in capitals too.
`readNumber?` is less strict about the digits and the blanks around them.
-/

namespace RiskGauge.Decimal

/-- The parts of a decimal fraction: the digits in front of the point and behind it, and the power of
ten, if written. -/
structure Parts where
  whole : List Char
  fraction : List Char
  power : Option Int

/-- A written power of ten, such as `e-3`; `none` if it lacks digits. -/
def readPower? : List Char → Option Int
  | [] => none
  | s =>
    let (negative, digits) := Text.splitSign s
    if digits.isEmpty || !digits.all Text.isAsciiDigit then none
    else
      let n := Text.digitsValue digits
      some (if negative then -(n : Int) else n)

/-- Takes a decimal fraction without its sign apart. -/
def parts? (s : List Char) : Option Parts :=
  let whole := s.takeWhile Text.isAsciiDigit
  let rest := s.dropWhile Text.isAsciiDigit
  let (fraction, rest) :=
    match rest with
    | '.' :: more => (more.takeWhile Text.isAsciiDigit, more.dropWhile Text.isAsciiDigit)
    | _ => ([], rest)
  if whole.isEmpty && fraction.isEmpty then none
  else
    match rest with
    | [] => some { whole, fraction, power := none }
    | c :: more =>
      if c == 'e' || c == 'E' then
        (readPower? more).map fun power => { whole, fraction, power := some power }
      else none

/-- The double nearest to a decimal fraction. -/
def Parts.value (p : Parts) (negative : Bool) : Float :=
  Binary64.ofDecimal negative (Text.digitsValue (p.whole ++ p.fraction))
    (p.power.getD 0 - p.fraction.length)

/-- The number that a text stands for. -/
def readDecimal? (s : List Char) : Option Float :=
  let (negative, body) := Text.splitSign s
  let word := String.ofList (body.map fun c => if 'A' ≤ c && c ≤ 'Z' then Char.ofNat (c.toNat + 32) else c)
  if word == "inf" || word == "infinity" then some (Binary64.infinity negative)
  else if word == "nan" then some Binary64.nan
  else (parts? body).map (·.value negative)

/-- The ASCII digit of the same value. -/
def asciiDigit (c : Char) : Char :=
  match Text.digitValue? c with
  | some d => Char.ofNat (48 + d)
  | none => c

/-- The text without underscores, if each of them stands between two digits; `last` is the character in front
of the text. -/
def ungrouped? (last : Option Char) : List Char → Option (List Char)
  | [] => some []
  | c :: rest =>
    if c == '_' then
      if last.any Text.isAsciiDigit && rest.head?.any Text.isAsciiDigit then ungrouped? (some c) rest else none
    else (ungrouped? (some c) rest).map (c :: ·)

/-- The number that a text stands for, with blanks around it, digits of any script and underscores between
them. -/
def readNumber? (s : List Char) : Option Float :=
  (ungrouped? none ((Text.trim s).map asciiDigit)).bind readDecimal?

end RiskGauge.Decimal
