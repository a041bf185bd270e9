/-!
# Values that were checked

`Validated` is a value or the list of all faults that were found. Two checks side by side give the faults
of both.
-/

namespace RiskGauge

/-- What is wrong with a field. -/
inductive FieldFault where
  | missing
  | notText
  | notNumber
  | unreadableNumber
  | notInteger
  | unreadableInteger
  | integerTooLong
  | fraction
  | notFinite
  | notList
  | notObject
  | negative
deriving DecidableEq, Repr

/-- The code of a fault. -/
def FieldFault.code : FieldFault → String
  | missing => "missing"
  | notText => "string_type"
  | notNumber => "float_type"
  | unreadableNumber => "float_parsing"
  | notInteger => "int_type"
  | unreadableInteger => "int_parsing"
  | integerTooLong => "int_parsing_size"
  | fraction => "int_from_float"
  | notFinite => "finite_number"
  | notList => "tuple_type"
  | notObject => "model_type"
  | negative => "value_error"

/-- A fault and the names that lead to the field. -/
structure FieldError where
  fault : FieldFault
  path : List String
deriving DecidableEq, Repr

/-- A value, or all faults that were found. -/
inductive Validated (α : Type) where
  | valid (a : α)
  | invalid (errors : List FieldError)

namespace Validated

variable {α β : Type}

/-- The value of one check applied to that of another. -/
def apply (f : Validated (α → β)) (x : Unit → Validated α) : Validated β :=
  match f, x () with
  | valid g, valid a => valid (g a)
  | valid _, invalid es => invalid es
  | invalid es, valid _ => invalid es
  | invalid es, invalid fs => invalid (es ++ fs)

instance : Applicative Validated where
  pure := valid
  seq := apply

/-- The value, if there is one. -/
def value? : Validated α → Option α
  | valid a => some a
  | invalid _ => none

/-- The faults. -/
def errors : Validated α → List FieldError
  | valid _ => []
  | invalid es => es

/-- The check inside of a field: its name leads to the faults. -/
def inside (name : String) : Validated α → Validated α
  | valid a => valid a
  | invalid es => invalid (es.map fun e => { e with path := name :: e.path })

/-- A single fault at this place. -/
def fail (fault : FieldFault) : Validated α :=
  invalid [{ fault, path := [] }]

/-- All values, or the faults of all. -/
def all : List (Validated α) → Validated (List α)
  | [] => valid []
  | x :: rest => List.cons <$> x <*> all rest

end Validated

end RiskGauge
