import RiskGauge.Decimal.Read
import RiskGauge.Entries
import RiskGauge.Json.Basic

/-!
# Reading JSON

`Json.read` reads one value with blanks around it. Beside the standard it reads `NaN`, `Infinity` and
`-Infinity`. A text between quotes may not hold control characters. A whole number may have at most
`Text.digitLimit` digits. Lists and objects inside one another take up room, of which there is a given
amount; the first one that there is no room for ends the reading, whatever follows it.
-/

namespace RiskGauge.Json

/-- The values that hold others. -/
inductive Container where
  | list
  | object
deriving DecidableEq, Repr

/-- Why a text is not read as JSON. -/
inductive Fault where
  /-- It does not follow the notation. -/
  | malformed
  /-- A whole number has too many digits. -/
  | tooLong (digits : Nat)
  /-- There is no room for a list or an object inside the others. -/
  | tooDeep (container : Container)
deriving DecidableEq, Repr

namespace Reader

/-- The blanks of JSON. -/
def isBlank (c : Char) : Bool :=
  c == ' ' || c == '\t' || c == '\n' || c == '\r'

/-- The text behind the blanks. -/
def skip (s : List Char) : List Char :=
  s.dropWhile isBlank

/-- The text behind a given one. -/
def after? : List Char → List Char → Option (List Char)
  | [], s => some s
  | c :: word, d :: s => if c == d then after? word s else none
  | _, [] => none

/-- The value of a hexadecimal digit. -/
def hexValue? (c : Char) : Option Nat :=
  if '0' ≤ c && c ≤ '9' then some (c.toNat - 48)
  else if 'a' ≤ c && c ≤ 'f' then some (c.toNat - 87)
  else if 'A' ≤ c && c ≤ 'F' then some (c.toNat - 55)
  else none

/-- Four hexadecimal digits. -/
def hexCode? : List Char → Option (Nat × List Char)
  | a :: b :: c :: d :: rest => do
    let n := (((← hexValue? a) * 16 + (← hexValue? b)) * 16 + (← hexValue? c)) * 16 + (← hexValue? d)
    return (n, rest)
  | _ => none

/-- The character that a letter behind a backslash stands for. -/
def escape? : Char → Option Char
  | '"' => some '"'
  | '\\' => some '\\'
  | '/' => some '/'
  | 'b' => some (Char.ofNat 8)
  | 'f' => some (Char.ofNat 12)
  | 'n' => some '\n'
  | 'r' => some '\r'
  | 't' => some '\t'
  | _ => none

/-- A character given by its code: one of the basic plane, or a pair of halves. A half alone is read as
the replacement character. -/
def codeChar (s : List Char) : Option (Char × List Char) := do
  let (n, rest) ← hexCode? s
  if 0xD800 ≤ n && n < 0xDC00 then
    match rest with
    | '\\' :: 'u' :: more =>
      match hexCode? more with
      | some (low, end_) =>
        if 0xDC00 ≤ low && low < 0xE000 then
          return (Char.ofNat (0x10000 + (n - 0xD800) * 0x400 + (low - 0xDC00)), end_)
        else return (Char.ofNat 0xFFFD, rest)
      | none => return (Char.ofNat 0xFFFD, rest)
    | _ => return (Char.ofNat 0xFFFD, rest)
  else if 0xDC00 ≤ n && n < 0xE000 then return (Char.ofNat 0xFFFD, rest)
  else return (Char.ofNat n, rest)

/-- The rest of a text between quotes; `found` are its characters so far, last first. -/
def quoted : Nat → List Char → List Char → Except Fault (String × List Char)
  | 0, _, _ => .error .malformed
  | n + 1, found, s =>
    match s with
    | [] => .error .malformed
    | '"' :: rest => .ok (String.ofList found.reverse, rest)
    | '\\' :: 'u' :: rest =>
      match codeChar rest with
      | some (c, rest) => quoted n (c :: found) rest
      | none => .error .malformed
    | '\\' :: c :: rest =>
      match escape? c with
      | some d => quoted n (d :: found) rest
      | none => .error .malformed
    | c :: rest => if c.toNat < 0x20 || c == '\\' then .error .malformed else quoted n (c :: found) rest

/-- The fraction of a number, if there is one. -/
def fraction (s : List Char) : List Char × List Char :=
  match s with
  | '.' :: rest =>
    let digits := rest.takeWhile Text.isAsciiDigit
    if digits.isEmpty then ([], s) else (digits, rest.dropWhile Text.isAsciiDigit)
  | _ => ([], s)

/-- The power of ten of a number, if there is one. -/
def power (s : List Char) : Option Int × List Char :=
  match s with
  | c :: rest =>
    if c == 'e' || c == 'E' then
      let (negative, digits) := Text.splitSign rest
      let shown := digits.takeWhile Text.isAsciiDigit
      if shown.isEmpty then (none, s)
      else
        let n : Int := Text.digitsValue shown
        (some (if negative then -n else n), digits.dropWhile Text.isAsciiDigit)
    else (none, s)
  | [] => (none, s)

/-- A number without its sign. -/
def number (negative : Bool) (s : List Char) : Except Fault (Json × List Char) :=
  let whole := match s with
    | '0' :: _ => ['0']
    | _ => s.takeWhile Text.isAsciiDigit
  if whole.isEmpty then .error .malformed
  else
    let (digits, rest) := fraction (s.drop whole.length)
    let (exponent, rest) := power rest
    if digits.isEmpty && exponent.isNone then
      match Text.readDigits whole with
      | .ok n => .ok (int (if negative then -(n : Int) else n), rest)
      | .error _ => .error (.tooLong whole.length)
    else
      .ok (float (Binary64.ofDecimal negative (Text.digitsValue (whole ++ digits))
        (exponent.getD 0 - digits.length)), rest)

/-- The words of the notation. -/
def word? (s : List Char) : Option (Json × List Char) :=
  [("null", null), ("true", bool true), ("false", bool false), ("NaN", float Binary64.nan),
    ("Infinity", float (Binary64.infinity false)), ("-Infinity", float (Binary64.infinity true))].findSome?
    fun (word, value) => (after? word.toList s).map (value, ·)

/-- The items of a list behind its opening bracket or a comma; `found` are those so far, last first. -/
def items (value : List Char → Except Fault (Json × List Char)) : Nat → List Json → List Char → Except Fault (Json × List Char)
  | 0, _, _ => .error .malformed
  | n + 1, found, s => do
    let (item, rest) ← value (skip s)
    match skip rest with
    | ',' :: rest => items value n (item :: found) rest
    | ']' :: rest => return (list (item :: found).reverse, rest)
    | _ => throw .malformed

/-- The members of an object behind its opening brace or a comma. -/
def members (value : List Char → Except Fault (Json × List Char)) : Nat → List (String × Json) → List Char → Except Fault (Json × List Char)
  | 0, _, _ => .error .malformed
  | n + 1, found, s => do
    match skip s with
    | '"' :: rest =>
      let (name, rest) ← quoted (rest.length + 1) [] rest
      match skip rest with
      | ':' :: rest =>
        let (item, rest) ← value (skip rest)
        let found := Entries.assign name item found
        match skip rest with
        | ',' :: rest => members value n found rest
        | '}' :: rest => return (object found, rest)
        | _ => throw .malformed
      | _ => throw .malformed
    | _ => throw .malformed

/-- A value that holds no others and is not a text. -/
def simple (s : List Char) : Except Fault (Json × List Char) :=
  match word? s with
  | some r => .ok r
  | none =>
    match s with
    | '-' :: rest => number true rest
    | _ => number false s

/-- A value without blanks in front of it, with room for the given number of lists and objects inside one another. -/
def value : Nat → List Char → Except Fault (Json × List Char)
  | _, [] => .error .malformed
  | _, '"' :: rest => do
    let (t, rest) ← quoted (rest.length + 1) [] rest
    return (text t, rest)
  | 0, '[' :: _ => .error (.tooDeep .list)
  | room + 1, '[' :: rest =>
    match skip rest with
    | ']' :: rest => .ok (list [], rest)
    | _ => items (value room) (rest.length + 1) [] rest
  | 0, '{' :: _ => .error (.tooDeep .object)
  | room + 1, '{' :: rest =>
    match skip rest with
    | '}' :: rest => .ok (object [], rest)
    | _ => members (value room) (rest.length + 1) [] rest
  | _, s => simple s

end Reader

/-- The value that a text stands for, with room for the given number of lists and objects inside one another. -/
def read (room : Nat) (s : List Char) : Except Fault Json := do
  let (v, rest) ← Reader.value room (Reader.skip s)
  if (Reader.skip rest).isEmpty then return v else throw .malformed

end RiskGauge.Json
