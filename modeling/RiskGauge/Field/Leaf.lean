import RiskGauge.Decimal.Read
import RiskGauge.Field.Validated

/-!
# Simple values of fields

A `Leaf` is the value of a field as it stands in a document. Numbers may be given as texts, and truth values
count as one and zero.
-/

namespace RiskGauge

/-- A simple value in a document. -/
inductive Leaf where
  | text (s : String)
  | int (n : Int)
  | float (x : Float)
  | bool (b : Bool)
  | other

namespace Leaf

/-- The text without underscores, if there are any and each stands alone between other characters. -/
def withoutUnderscores? (s : List Char) : Option (List Char) :=
  let rec doubled : List Char → Bool
    | '_' :: '_' :: _ => true
    | _ :: rest => doubled rest
    | [] => false
  if s.head? == some '_' || s.getLast? == some '_' || doubled s then none else some (s.filter (· != '_'))

/-- The number that a text stands for. -/
def floatOfText? (s : List Char) : Option Float :=
  let s := Text.trim s
  match Decimal.readDecimal? s with
  | some x => some x
  | none => (withoutUnderscores? s).bind Decimal.readDecimal?

/-- A whole number of digits that has no zeros in front. -/
def plainInteger? (s : List Char) : Option Int :=
  let (negative, digits) := match s with
    | '-' :: rest => (true, rest)
    | _ => (false, s)
  if digits.isEmpty || !digits.all Text.isAsciiDigit || (1 < digits.length && digits.head? == some '0') then none
  else
    let n : Int := Text.digitsValue digits
    some (if negative then -n else n)

/-- The text behind the zeros in front of a number; a zero in front of a point or at the end stays. -/
def withoutZeros? (s : List Char) : Option (List Char) :=
  match s with
  | '0' :: rest =>
    let tail := rest.dropWhile fun c => c == '0' || c == '_'
    match tail with
    | [] => some [s.getLast?.getD '0']
    | '.' :: _ => some ((s.take (s.length - tail.length)).getLast?.getD '0' :: tail)
    | c :: _ => if Text.isAsciiDigit c then some tail else none
  | c :: _ => if Text.isAsciiDigit c || c == '-' then some s else none
  | [] => none

/-- The whole number that a text stands for. -/
def integerOfText (s : List Char) : Except FieldFault Int :=
  if Text.digitLimit < (Text.trim s).length then .error .integerTooLong
  else
    let s := Text.trim s
    let s := match s with
      | '+' :: rest => if rest.head? == some '-' then s else rest
      | _ => s
    let read : Option Int := do
      let s ← withoutZeros? s
      let whole := s.takeWhile (· != '.')
      if !(s.drop (whole.length + 1)).all (· == '0') then none
      plainInteger? (← withoutUnderscores? whole)
    match read with
    | some n => .ok n
    | none => .error .unreadableInteger

/-- The whole number that a double stands for. -/
def integerOfFloat (x : Float) : Except FieldFault Int :=
  match Binary64.shape x with
  | .nan | .infinite _ => .error .notFinite
  | .finite negative m e =>
    let whole := if 0 ≤ e then m * Binary64.twoTo e.toNat else m / Binary64.twoTo (-e).toNat
    if (e < 0 && m % Binary64.twoTo (-e).toNat != 0) || Binary64.twoTo 63 ≤ whole then .error .fraction
    else .ok (if negative then -(whole : Int) else whole)

/-- A number. -/
def asFloat : Leaf → Validated Float
  | text s =>
    match floatOfText? s.toList with
    | some x => .valid x
    | none => .fail .unreadableNumber
  | int n =>
    match Binary64.ofInt? n with
    | some x => .valid x
    | none => .fail .notNumber
  | float x => .valid x
  | bool b => .valid (if b then 1 else 0)
  | other => .fail .notNumber

/-- A whole number. -/
def asInteger : Leaf → Validated Int
  | text s =>
    match integerOfText s.toList with
    | .ok n => .valid n
    | .error fault => .fail fault
  | int n => .valid n
  | float x =>
    match integerOfFloat x with
    | .ok n => .valid n
    | .error fault => .fail fault
  | bool b => .valid (if b then 1 else 0)
  | other => .fail .notInteger

/-- A text. -/
def asText : Leaf → Validated String
  | text s => .valid s
  | _ => .fail .notText

end Leaf

end RiskGauge
