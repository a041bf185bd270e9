import RiskGauge.Scalar
import RiskGauge.Value.Pairs

/-!
# Weights

The weights of the three dimensions of a score. They are not negative; they need not add up to one.
-/

namespace RiskGauge

/-- The weights of the dimensions. -/
structure Weights (α : Type) where
  functionality : α
  resource : α
  dependability : α
deriving DecidableEq, Repr

namespace Weights

/-- The weights if none are given. -/
def standard {α : Type} [Scalar α] : Weights α where
  functionality := 0.40
  resource := 0.30
  dependability := 0.30

/-- A number that is not negative. -/
def nonNegative : Validated Float → Validated Float
  | .valid x => if x < 0 then .fail .negative else .valid x
  | .invalid errors => .invalid errors

/-- A weight under one of its two names, the short one first. -/
def weight (pairs : List (Value × Value)) (short long : String) (standard : Float) : Validated Float :=
  match Value.find? short pairs with
  | some v => (nonNegative v.leaf.asFloat).inside short
  | none =>
    match Value.find? long pairs with
    | some v => (nonNegative v.leaf.asFloat).inside long
    | none => .valid standard

/-- The weights in a mapping. -/
def ofPairs (pairs : List (Value × Value)) : Validated (Weights Float) :=
  Weights.mk <$> weight pairs "wF" "functionality" standard.functionality
    <*> weight pairs "wR" "resource" standard.resource
    <*> weight pairs "wD" "dependability" standard.dependability

/-- The weights as JSON. -/
def toJson (w : Weights Float) : Json :=
  .object [("functionality", .float w.functionality), ("resource", .float w.resource),
    ("dependability", .float w.dependability)]

end Weights

/-- Why weights are refused. -/
inductive WeightsError where
  | pairs (error : PairsError)
  | fields (errors : List FieldError)
deriving DecidableEq, Repr

/-- The wording of the error. -/
def WeightsError.message : WeightsError → String
  | pairs error => error.message
  | fields errors => toString errors.length ++ " wrong weights"

/-- The weights that a value stands for; the standard ones for none. -/
def Weights.ofValue : Option Value → Except WeightsError (Weights Float)
  | none | some .null => .ok standard
  | some v =>
    match v.toPairs with
    | .error e => .error (.pairs e)
    | .ok pairs =>
      match ofPairs pairs with
      | .valid w => .ok w
      | .invalid errors => .error (.fields errors)

end RiskGauge
