import RiskGauge.Field.Validated

/-!
# Values of checks

Two checks side by side give a value if both do (`value?_seq`); the name of a field in front of the faults does not
change the value (`value?_inside`).
-/

namespace RiskGauge.Validated

variable {α β : Type}

@[simp] theorem value?_seq (f : Validated (α → β)) (x : Validated α) :
    (f <*> x).value? = f.value?.bind fun g => x.value?.map g := by
  cases f <;> cases x <;> rfl

@[simp] theorem value?_map (f : α → β) (x : Validated α) : (f <$> x).value? = x.value?.map f := by
  cases x <;> rfl

@[simp] theorem value?_inside (name : String) (x : Validated α) : (x.inside name).value? = x.value? := by
  cases x <;> rfl

@[simp] theorem value?_fail (fault : FieldFault) : (fail fault : Validated α).value? = none := rfl

@[simp] theorem errors_seq (f : Validated (α → β)) (x : Validated α) : (f <*> x).errors = f.errors ++ x.errors := by
  cases f <;> cases x <;> simp [Seq.seq, apply, errors]

@[simp] theorem errors_map (f : α → β) (x : Validated α) : (f <$> x).errors = x.errors := by
  cases x <;> rfl

theorem value?_eq_none {x : Validated α} {e : FieldError} (h : e ∈ x.errors) : x.value? = none := by
  cases x with
  | valid a => cases h
  | invalid errors => rfl

end RiskGauge.Validated
