/-!
# JSON values

Numbers are whole numbers or doubles, as they were written. The members of an object keep the order in
which their names first came; a name that comes again replaces the value.
-/

namespace RiskGauge

/-- A JSON value. -/
inductive Json where
  | null
  | bool (b : Bool)
  | int (n : Int)
  | float (x : Float)
  | text (s : String)
  | list (items : List Json)
  | object (members : List (String × Json))
deriving Inhabited

namespace Json

/-- The items of a list. -/
def items? : Json → Option (List Json)
  | list items => some items
  | _ => none

end Json

end RiskGauge
