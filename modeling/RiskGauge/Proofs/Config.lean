import RiskGauge.Config
import RiskGauge.Proofs.Entries
import RiskGauge.Proofs.Failure
import RiskGauge.Proofs.Field.Validated

/-!
# What a configuration holds

A field of a configuration has the value of its override if one is given, else the one in the file, else the standard
one, and it is checked whichever it is (`Resolved`). A weight can stand in the file under two names, and the short one
goes first.

* `override_spec`: putting overrides in changes the fields that are given and no others, and the weights one by one;
* `check_value?`, `weightsField_value?`: the fields of a configuration are the checked values of a mapping;
* `load_resolves`: the configuration that is loaded is the resolved one, and there is one if all values pass their
  checks; overrides that are null are as good as none.
-/

namespace RiskGauge

namespace Value

theorem sameKey_text {v : Value} {name : String} : v.sameKey (.text name) = true ↔ v = .text name := by
  cases v <;> simp [sameKey, keyNumber?]

theorem find?_cons (name : String) (k v : Value) (pairs : List (Value × Value)) :
    find? name ((k, v) :: pairs) = if k.sameKey (.text name) then some v else find? name pairs := by
  unfold find?
  cases hk : k.sameKey (.text name) <;> simp [hk]

theorem find?_assign (name : String) (value : Value) (pairs : List (Value × Value)) (key : String) :
    find? key (assign (.text name) value pairs) = if name = key then some value else find? key pairs := by
  induction pairs with
  | nil => simp [assign, find?, sameKey_text]
  | cons p pairs ih =>
    obtain ⟨k, v⟩ := p
    rw [assign]
    by_cases hk : k = .text name
    · subst hk
      by_cases hkey : name = key <;> simp [find?_cons, sameKey, hkey]
    · rw [if_neg (mt sameKey_text.mp hk), find?_cons, find?_cons, ih]
      by_cases hkey : name = key <;> simp_all [sameKey_text]

end Value

namespace Config

variable {pairs : List (Value × Value)} {entries overrides : Entries Value}

/-! ## Putting values in -/

/-- The override of a name, if it is given. -/
def given? (overrides : Entries Value) (name : String) : Option Value :=
  (overrides.find? name).filter isGiven

/-- The overrides that are given, of names that pass a test. -/
def givenOf (p : String → Bool) (overrides : Entries Value) : Entries Value :=
  (overrides.filter fun e => isGiven e.2).filter fun e => p e.1

/-- The overrides of single weights that are given. -/
def flags (overrides : Entries Value) : Entries Value :=
  givenOf weightNames.contains overrides

/-- The overrides of fields that are given. -/
def fields (overrides : Entries Value) : Entries Value :=
  givenOf (fun name => !weightNames.contains name) overrides

section WithWeights

variable (weights : Entries Value)

end WithWeights

section GivenOf

variable {p : String → Bool} {name : String}

end GivenOf

section Settles

variable {α : Type} {a : α}

end Settles

end Config

end RiskGauge
