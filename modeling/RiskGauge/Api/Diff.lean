import RiskGauge.Api.Signature
import RiskGauge.Entries

/-!
# Changes of an API

Two lists of declarations are compared by name. Of several declarations of a name the last one counts.
-/

namespace RiskGauge.Api

/-- How many names were added, removed and changed, and how many declarations the larger list has. -/
structure Diff where
  added : Nat := 0
  removed : Nat := 0
  changed : Nat := 0
  total : Nat := 0
deriving DecidableEq, Repr

/-- The number of changes. -/
def Diff.changes (d : Diff) : Nat :=
  d.added + d.removed + d.changed

/-- The text of the last declaration of each name. -/
def latest (xs : List Signature) : Entries String :=
  Entries.ofPairs (xs.map fun s => (s.name, s.text))

/-- The changes from one list of declarations to another. -/
def diff (before after : List Signature) : Diff :=
  let old := latest before
  let new := latest after
  { added := new.countP fun e => !old.has e.1
    removed := old.countP fun e => !new.has e.1
    changed := old.countP fun e => (new.find? e.1).any (· ≠ e.2)
    total := max before.length after.length }

/-- The changes from one source to another. -/
def sourceDiff (reader : SourceReader) (grammar : Grammar) (before after : List Char) : Diff :=
  diff (signatures reader grammar before) (signatures reader grammar after)

end RiskGauge.Api
