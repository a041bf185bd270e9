/-!
# Doubles as exact numbers

A finite double is a whole number times a power of two. `Binary64.shape` takes a double apart and
`Binary64.ofRatio?` gives the double nearest to a fraction, ties to the even significand; between them
every reading and writing of numbers is whole-number arithmetic.
-/

namespace RiskGauge.Binary64

/-- The power `2 ^ k`. -/
abbrev twoTo (k : Nat) : Nat := Nat.pow 2 k

/-- The power `10 ^ k`. -/
abbrev tenTo (k : Nat) : Nat := Nat.pow 10 k

/-- What a double stands for. -/
inductive Shape where
  | nan
  | infinite (negative : Bool)
  /-- The number `significand · 2 ^ exponent`, or its negative. -/
  | finite (negative : Bool) (significand : Nat) (exponent : Int)
deriving DecidableEq, Repr

/-- The parts of a double, read off its bits. -/
def shape (x : Float) : Shape :=
  let bits := x.toBits.toNat
  let negative := bits / twoTo 63 == 1
  let field : Nat := bits / twoTo 52 % twoTo 11
  let fraction : Nat := bits % twoTo 52
  if field == twoTo 11 - 1 then
    if fraction == 0 then .infinite negative else .nan
  else if field == 0 then .finite negative fraction (-1074)
  else .finite negative (twoTo 52 + fraction) ((field : Int) - 1075)

/-- The whole number nearest to `n / d`, ties to even. -/
def roundDiv (n d : Nat) : Nat :=
  let q := n / d
  let r := n % d
  if 2 * r < d then q
  else if d < 2 * r then q + 1
  else q + q % 2

/-- The whole number nearest to `(n / d) · 2 ^ (-e)`, ties to even. -/
def roundScaled (n d : Nat) (e : Int) : Nat :=
  if 0 ≤ e then roundDiv n (d * twoTo e.toNat) else roundDiv (n * twoTo (-e).toNat) d

/-- The bits of `m · 2 ^ e` for `2 ^ 52 ≤ m < 2 ^ 53`, or `m < 2 ^ 52` and `e = -1074`. -/
def pack (negative : Bool) (m : Nat) (e : Int) : Float :=
  let sign := if negative then twoTo 63 else 0
  let rest := if m < twoTo 52 then m else (e + 1075).toNat * twoTo 52 + (m - twoTo 52)
  Float.ofBits (UInt64.ofNat (sign + rest))

/-- Positive or negative infinity. -/
def infinity (negative : Bool) : Float :=
  Float.ofBits (UInt64.ofNat ((if negative then twoTo 63 else 0) + (twoTo 11 - 1) * twoTo 52))

/-- Not a number. -/
def nan : Float :=
  Float.ofBits (UInt64.ofNat ((twoTo 12 - 1) * twoTo 51))

/-- The double nearest to the fraction `n / d`, or to its negative; `none` if the fraction is too
large for every double. -/
def ofRatio? (negative : Bool) (n d : Nat) : Option Float :=
  if n == 0 then some (pack negative 0 (-1074))
  else
    -- `n / d` lies between `2 ^ (top - 1)` and `2 ^ (top + 1)`
    let top : Int := (Nat.log2 n : Int) - Nat.log2 d
    let low : Int := max (top - 53) (-1074)
    let m := roundScaled n d low
    let (m, e) :=
      if m < twoTo 53 then (m, low)
      else
        let m' := roundScaled n d (low + 1)
        if m' < twoTo 53 then (m', low + 1) else (twoTo 52, low + 2)
    if 971 < e then none else some (pack negative m e)

/-- The double nearest to a whole number. -/
def ofInt? (n : Int) : Option Float :=
  ofRatio? (n < 0) n.natAbs 1

/-- The double nearest to `± digits · 10 ^ exponent`, infinite if the number is too large. Exponents
far outside the range of doubles are not multiplied out. -/
def ofDecimal (negative : Bool) (digits : Nat) (exponent : Int) : Float :=
  if digits == 0 then pack negative 0 (-1074)
  else if 400 < exponent then infinity negative
  else if exponent < -400 - (Nat.log2 digits : Int) then pack negative 0 (-1074)
  else
    let value :=
      if 0 ≤ exponent then ofRatio? negative (digits * tenTo exponent.toNat) 1
      else ofRatio? negative digits (tenTo (-exponent).toNat)
    value.getD (infinity negative)

end RiskGauge.Binary64
