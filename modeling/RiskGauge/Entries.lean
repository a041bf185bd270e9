/-!
# Entries by name

A list of names with values in which every name comes once, in the order in which the names first came.
-/

namespace RiskGauge

/-- Values by name. -/
abbrev Entries (α : Type) := List (String × α)

namespace Entries

variable {α : Type}

/-- The entries with one of them set: in its old place, or else at the end. -/
def assign (name : String) (value : α) : Entries α → Entries α
  | [] => [(name, value)]
  | (n, v) :: rest => if n = name then (n, value) :: rest else (n, v) :: assign name value rest

/-- The value of a name. -/
def find? (name : String) : Entries α → Option α
  | [] => none
  | (n, v) :: rest => if n = name then some v else find? name rest

/-- The value of a name, changed; a name that is missing gets the change of `start`. -/
def change (name : String) (start : α) (f : α → α) (es : Entries α) : Entries α :=
  es.assign name (f ((es.find? name).getD start))

/-- The names. -/
def names (es : Entries α) : List String :=
  es.map Prod.fst

/-- There is an entry of this name. -/
def has (name : String) (es : Entries α) : Bool :=
  (es.find? name).isSome

/-- The entries of a list of pairs; of several values for a name the last one counts. -/
def ofPairs (pairs : List (String × α)) : Entries α :=
  pairs.foldl (fun es p => es.assign p.1 p.2) []

end Entries

end RiskGauge
