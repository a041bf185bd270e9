import RiskGauge.Decimal.Read
import RiskGauge.Yaml.Tag

/-!
# Numbers, truth values and dates of YAML

What a scalar of these types stands for. A scalar with an explicit tag need not be written in the way of its
type; then it has no value.
-/

namespace RiskGauge.Yaml

/-- Why a text has no value. -/
inductive Fault where
  /-- The text is not YAML, or uses a type that is not known. -/
  | malformed
  /-- A whole number to some base is not written as one. -/
  | integer (base : Nat) (text : String)
  /-- A whole number has too many digits. -/
  | tooLong (digits : Nat)
  /-- A fraction is not written as one. -/
  | fraction (text : String)
  /-- A truth value is not written as one. -/
  | truth (text : String)
  /-- A number is empty. -/
  | emptyNumber
  /-- There is no such day or time. -/
  | date (reason : String)
deriving DecidableEq, Repr

/-- The wording of the fault. -/
def Fault.message : Fault → String
  | malformed => "malformed document"
  | integer base text => s!"invalid literal for int() with base {base}: '{text}'"
  | tooLong digits => Text.IntegerFault.message (.tooLong digits)
  | fraction text => s!"could not convert string to float: '{text}'"
  | truth text => s!"'{text}'"
  | emptyNumber => "string index out of range"
  | date reason => reason

namespace Number

/-- The value of a digit to a base. -/
def digit? (base : Nat) (c : Char) : Option Nat := do
  let d ← if 'a' ≤ c && c ≤ 'z' then some (c.toNat - 87)
    else if 'A' ≤ c && c ≤ 'Z' then some (c.toNat - 55)
    else Text.digitValue? c
  if d < base then some d else none

/-- A whole number to a base other than ten. -/
def ofDigits (base : Nat) (text : List Char) : Except Fault Int :=
  let (negative, digits) := Text.splitSign (Text.trim text)
  match digits.mapM (digit? base) with
  | some (d :: ds) =>
    let n := (d :: ds).foldl (fun n d => base * n + d) 0
    .ok (if negative then -(n : Int) else n)
  | _ => .error (.integer base (String.ofList text))

/-- A whole number to the base ten. -/
def decimal (text : List Char) : Except Fault Int :=
  match Text.readInteger text with
  | .ok n => .ok n
  | .error (.tooLong digits) => .error (.tooLong digits)
  | .error .malformed => .error (.integer 10 (String.ofList text))

/-- The pieces between colons. -/
def pieces (text : List Char) : List (List Char) :=
  text.splitOn ':'

/-- The text of a number without underscores and its sign: whether it is negative, and what is left. -/
def unsigned (text : List Char) : Except Fault (Bool × List Char) :=
  match text.filter (· != '_') with
  | [] => .error .emptyNumber
  | '-' :: rest => .ok (true, rest)
  | '+' :: rest => .ok (false, rest)
  | rest => .ok (false, rest)

/-- The value of a whole number without its sign. -/
def integerValue (text : List Char) : Except Fault Int :=
  match text with
  | ['0'] => .ok 0
  | '0' :: 'b' :: rest => ofDigits 2 rest
  | '0' :: 'x' :: rest => ofDigits 16 rest
  | '0' :: _ => ofDigits 8 text
  | [] => .error .emptyNumber
  | _ =>
    if text.contains ':' then do
      let digits ← (pieces text).mapM decimal
      return digits.foldl (fun n d => 60 * n + d) 0
    else decimal text

/-- The value of a whole number. -/
def integer (text : List Char) : Except Fault Int := do
  let (negative, rest) ← unsigned text
  let n ← integerValue rest
  return if negative then -n else n

/-- A decimal fraction. -/
def decimalFraction (text : List Char) : Except Fault Float :=
  match Decimal.readDecimal? (Text.trim text) with
  | some x => .ok x
  | none => .error (.fraction (String.ofList text))

/-- The sum of the places of a fraction to the base sixty, the last place first. -/
def sixtieths (places : List Float) : Float :=
  let (sum, _) := places.foldl (fun (sum, base) x => (sum + x * base, base * 60)) ((0 : Float), (1 : Float))
  sum

/-- The value of a fraction without its sign. -/
def fractionValue (text : List Char) : Except Fault Float :=
  if text == ".inf".toList then .ok (Binary64.infinity false)
  else if text == ".nan".toList then .ok Binary64.nan
  else if text.contains ':' then do
    let places ← (pieces text).mapM decimalFraction
    return sixtieths places.reverse
  else decimalFraction text

/-- ASCII letters in lower case. -/
def lowered (text : List Char) : List Char :=
  text.map Char.toLower

/-- The value of a fraction. -/
def fraction (text : List Char) : Except Fault Float := do
  let (negative, rest) ← unsigned (lowered text)
  let x ← fractionValue rest
  return if negative then -x else x

/-- A truth value. -/
def truth (text : List Char) : Except Fault Bool :=
  let word := String.ofList (lowered text)
  if ["yes", "true", "on"].contains word then .ok true
  else if ["no", "false", "off"].contains word then .ok false
  else .error (.truth word)

/-- A year has a leap day. -/
def isLeap (year : Nat) : Bool :=
  year % 4 == 0 && (year % 100 != 0 || year % 400 == 0)

/-- The days of a month. -/
def daysIn (year month : Nat) : Nat :=
  if month == 2 then if isLeap year then 29 else 28
  else if [4, 6, 9, 11].contains month then 30
  else 31

/-- The whole numbers in a text. -/
def runs : List Char → List Char → List Nat
  | digits, [] => if digits.isEmpty then [] else [Text.digitsValue digits.reverse]
  | digits, c :: rest =>
    if Text.isAsciiDigit c then runs (c :: digits) rest
    else if digits.isEmpty then runs [] rest
    else Text.digitsValue digits.reverse :: runs [] rest

/-- The date has a time of day. -/
def hasTime (text : List Char) : Bool :=
  text.contains ':'

/-- The date or the time exists. -/
def checkDate (text : List Char) : Except Fault Unit :=
  match runs [] text with
  | year :: month :: day :: time =>
    if year == 0 then .error (.date "year 0 is out of range")
    else if month == 0 || 12 < month then .error (.date "month must be in 1..12")
    else if day == 0 || daysIn year month < day then .error (.date "day is out of range for month")
    else
      match time with
      | hour :: minute :: second :: _ =>
        if 23 < hour then .error (.date "hour must be in 0..23")
        else if 59 < minute then .error (.date "minute must be in 0..59")
        else if 59 < second then .error (.date "second must be in 0..59")
        else .ok ()
      | _ => .ok ()
  | _ => .error .malformed

end Number

end RiskGauge.Yaml
