import RiskGauge.Text.CharClass

/-!
# Whole numbers in a text

A whole number is written with the digits of any script, after an optional sign, with blanks around it
and single underscores between its digits. Numbers of more than `digitLimit` digits are refused.
-/

namespace RiskGauge.Text

/-- The most digits that are read. -/
def digitLimit : Nat := 4300

/-- Why a text is not read as a whole number. -/
inductive IntegerFault where
  /-- It is not the text of a number. -/
  | malformed
  /-- It has too many digits. -/
  | tooLong (digits : Nat)
deriving DecidableEq, Repr

/-- The wording of the fault. -/
def IntegerFault.message : IntegerFault → String
  | malformed => "not a whole number"
  | tooLong digits =>
    s!"Exceeds the limit ({digitLimit} digits) for integer string conversion: value has {digits} digits; "
      ++ "use sys.set_int_max_str_digits() to increase the limit"

/-- The digits of a number without the underscores between them. -/
def groupedDigits (digit : Char → Bool) : List Char → Option (List Char)
  | [] => none
  | [c] => if digit c then some [c] else none
  | c :: '_' :: rest => if digit c then (groupedDigits digit rest).map (c :: ·) else none
  | c :: rest => if digit c then (groupedDigits digit rest).map (c :: ·) else none

/-- The value of a row of digits. -/
def digitsValue (digits : List Char) : Nat :=
  digits.foldl (fun n c => 10 * n + (digitValue? c).getD 0) 0

/-- A sign in front of a text: whether it is a minus, and the text behind it. -/
def splitSign : List Char → Bool × List Char
  | '-' :: rest => (true, rest)
  | '+' :: rest => (false, rest)
  | s => (false, s)

/-- The value of a row of digits, within the limit. -/
def readDigits (digits : List Char) : Except IntegerFault Nat :=
  if digitLimit < digits.length then .error (.tooLong digits.length) else .ok (digitsValue digits)

/-- The whole number that a text stands for. -/
def readInteger (s : List Char) : Except IntegerFault Int :=
  let (negative, body) := splitSign (trim s)
  match groupedDigits isDigit body with
  | none => .error .malformed
  | some digits => do
    let n ← readDigits digits
    return if negative then -(n : Int) else n

end RiskGauge.Text
