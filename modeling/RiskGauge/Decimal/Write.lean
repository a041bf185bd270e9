import RiskGauge.Decimal.Binary64

/-!
# Doubles in decimal notation

`fixed` writes a number with a given number of places behind the point, rounded from the exact value
with ties to even. `shortest` writes the fewest digits from which the number can be read back,
positionally unless it is very large or very small. `roundPlaces` rounds and reads the result back.
-/

namespace RiskGauge.Decimal

open Binary64

/-- The whole number nearest to `significand · 2 ^ exponent · 10 ^ places`, ties to even. -/
def scaled (significand : Nat) (exponent : Int) (places : Int) : Nat :=
  let n := if 0 ≤ places then significand * tenTo places.toNat else significand
  let d := if 0 ≤ places then 1 else tenTo (-places).toNat
  if 0 ≤ exponent then roundDiv (n * twoTo exponent.toNat) d else roundDiv n (d * twoTo (-exponent).toNat)

/-- The text of a whole number, with zeros in front up to the given width. -/
def padded (width n : Nat) : String :=
  let digits := Nat.toDigits 10 n
  String.ofList (List.replicate (width - digits.length) '0' ++ digits)

/-- A whole number of units of `10 ^ (-places)`. -/
def pointed (places n : Nat) : String :=
  if places == 0 then toString n
  else toString (n / tenTo places) ++ "." ++ padded places (n % tenTo places)

/-- A sign for negative numbers. -/
def signed (negative : Bool) (s : String) : String :=
  if negative then "-" ++ s else s

/-- The number with `places` places behind the point. -/
def fixed (places : Nat) (x : Float) : String :=
  match shape x with
  | .nan => "nan"
  | .infinite negative => signed negative "inf"
  | .finite negative m e => signed negative (pointed places (scaled m e places))

/-- The number rounded to `places` places behind the point. -/
def roundPlaces (places : Nat) (x : Float) : Float :=
  match shape x with
  | .finite negative m e =>
    if 0 ≤ e then x
    else (ofRatio? negative (scaled m e places) (tenTo places)).getD x
  | _ => x

/-- The power of ten of the leading digit of `m · 2 ^ e`, for `m ≠ 0`. -/
def magnitude (m : Nat) (e : Int) : Int :=
  let n := if 0 ≤ e then m * twoTo e.toNat else m
  let d := if 0 ≤ e then 1 else twoTo (-e).toNat
  if d ≤ n then ((Nat.toDigits 10 (n / d)).length : Int) - 1
  else
    -- the quotient `d / n` has one digit for each place that the number lies behind the point
    let k : Int := (Nat.toDigits 10 (d / n)).length
    if d == n * tenTo (k.toNat - 1) then -(k - 1) else -k

/-- An exponent with its sign and at least two digits. -/
def exponentText (e : Int) : String :=
  (if e < 0 then "e-" else "e+") ++ padded 2 e.natAbs

/-- A digit in front of the point and the others behind it. -/
def leadText (digits : List Char) : String :=
  match digits with
  | [] => "0"
  | [c] => String.ofList [c]
  | c :: rest => String.ofList (c :: '.' :: rest)

/-- The decimal with the given places that is read back as the positive number `x`: of its two
neighbours the nearer if that will do, else the other. -/
def readsBack? (x : Float) (m : Nat) (e places : Int) : Option Nat :=
  let near := scaled m e places
  [near, near - 1, near + 1].find? fun n => (ofDecimal false n (-places)).toBits == x.toBits

/-- The fewest digits, as a whole number and a power of ten, that are read back as the positive number
`x = m · 2 ^ e`; seventeen digits always are. `tries` more digit counts are left. -/
def shortestDigits (x : Float) (m : Nat) (e top : Int) : Nat → Nat × Int
  | 0 => (scaled m e (16 - top), top - 16)
  | tries + 1 =>
    let places := 17 - (tries + 1 : Int) - 1 - top
    match readsBack? x m e places with
    | some n => (n, -places)
    | none => shortestDigits x m e top tries

/-- A positive whole number without the zeros at its end, and their number. -/
def dropZeros : Nat → Nat → Nat × Nat
  | 0, n => (n, 0)
  | fuel + 1, n =>
    if n % 10 == 0 && n != 0 then
      let (n', zeros) := dropZeros fuel (n / 10)
      (n', zeros + 1)
    else (n, 0)

/-- Digits in positional notation or with a power of ten: positional from `10 ^ (-4)` to `10 ^ 16`. -/
def layout (n : Nat) (power : Int) : String :=
  let digits := Nat.toDigits 10 n
  let point : Int := digits.length + power
  if -4 < point && point ≤ 16 then
    if 0 < point then
      let whole := digits.take point.toNat ++ List.replicate (point.toNat - digits.length) '0'
      let fraction := digits.drop point.toNat
      String.ofList (whole ++ '.' :: (if fraction.isEmpty then ['0'] else fraction))
    else String.ofList ('0' :: '.' :: List.replicate (-point).toNat '0' ++ digits)
  else leadText digits ++ exponentText (point - 1)

/-- The shortest text from which the number can be read back. -/
def shortest (x : Float) : String :=
  match shape x with
  | .nan => "NaN"
  | .infinite negative => signed negative "Infinity"
  | .finite negative m e =>
    if m == 0 then signed negative "0.0"
    else
      let (n, power) := shortestDigits x.abs m e (magnitude m e) 16
      let (n, zeros) := dropZeros 20 n
      signed negative (layout n (power + zeros))

end RiskGauge.Decimal
