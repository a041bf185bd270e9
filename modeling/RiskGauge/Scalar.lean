import RiskGauge.Decimal.Binary64

/-!
# Scalars

All scores are computed by formulas over a `Scalar`: a type with the operations of arithmetic, decimal
constants and whole numbers. Doubles are scalars, and so are exact numbers; one formula serves to compute
with the former and to reason with the latter.
-/

namespace RiskGauge

/-- Why a number cannot be computed. -/
inductive NumericError where
  /-- A whole number is too large for a scalar. -/
  | numberTooLarge
  /-- A quotient of whole numbers is too large for a scalar. -/
  | quotientTooLarge
  /-- A power is too large for a scalar. -/
  | powerTooLarge
deriving DecidableEq, Repr

/-- The wording of the error. -/
def NumericError.message : NumericError → String
  | numberTooLarge => "int too large to convert to float"
  | quotientTooLarge => "integer division result too large for a float"
  | powerTooLarge => "math range error"

/-- Numbers to compute scores with. -/
class Scalar (α : Type) extends Add α, Sub α, Mul α, Div α, Neg α, OfScientific α, LT α, LE α where
  decLt : ∀ a b : α, Decidable (a < b)
  decLe : ∀ a b : α, Decidable (a ≤ b)
  /-- The number is zero. -/
  isZero : α → Bool
  /-- A count. -/
  ofNat : Nat → α
  /-- A whole number of any size. -/
  ofInt? : Int → Except NumericError α
  /-- The quotient of two whole numbers of any size. -/
  quotient? : Int → Int → Except NumericError α

namespace Scalar

instance {α : Type} [Scalar α] (a b : α) : Decidable (a < b) := Scalar.decLt a b
instance {α : Type} [Scalar α] (a b : α) : Decidable (a ≤ b) := Scalar.decLe a b

instance : Scalar Float where
  decLt := inferInstance
  decLe := inferInstance
  isZero x := x == 0
  ofNat := Float.ofNat
  ofInt? n := match Binary64.ofInt? n with
    | some x => .ok x
    | none => .error .numberTooLarge
  quotient? a b := match Binary64.ofRatio? ((a < 0) != (b < 0)) a.natAbs b.natAbs with
    | some x => .ok x
    | none => .error .quotientTooLarge

variable {α : Type} [Scalar α]

/-- The first number, unless the second is greater. -/
def greater (a b : α) : α :=
  if a < b then b else a

/-- The first number, unless the second is smaller. -/
def smaller (a b : α) : α :=
  if b < a then b else a

/-- The number cut to the range from zero to one. -/
def clamp (x : α) : α :=
  greater 0.0 (smaller 1.0 x)

/-- One for a condition that holds, zero for one that does not. -/
def indicator (b : Bool) : α :=
  if b then 1.0 else 0.0

/-- The sum of a list, from left to right. -/
def sum (xs : List α) : α :=
  xs.foldl (· + ·) 0.0

end Scalar

/-- The functions beyond arithmetic that the scores use. -/
structure Curves (α : Type) where
  exp : α → α
  /-- The logarithm of a count to the base two. -/
  log2 : Nat → α
  sqrt : α → α
  /-- A number raised to a power. -/
  pow : α → α → α

namespace Curves

/-- The logarithm of a count to the base two as a double; a count too large for a double is halved first. -/
def log2Float (n : Nat) : Float :=
  let extra := n.log2 - 1000
  (Float.ofNat (n >>> extra)).log2 + Float.ofNat extra

/-- The functions on doubles. -/
def float : Curves Float where
  exp := Float.exp
  log2 := log2Float
  sqrt := Float.sqrt
  pow := Float.pow

end Curves

end RiskGauge
