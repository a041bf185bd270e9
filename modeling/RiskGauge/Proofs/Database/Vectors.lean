import RiskGauge.Proofs.Database.Document
import RiskGauge.Proofs.Failure
import RiskGauge.Proofs.Score.Convert

/-!
# What a document of weighted words gives

The weights of words are made doubles while an entry is checked, and a whole number without a double ends the
reading of the whole document (`Document.vectorSignature_cases`). Without such a weight all entries are read, and the
valid ones are kept (`Document.vectorSignaturesFrom_cases`).
-/

namespace RiskGauge

open Binary64 (overflow)

namespace Document

/-- A whole number without a double. -/
def IsHuge : Json → Prop
  | .int n => overflow ≤ n.natAbs
  | _ => False

/-- Words of which some have a weight without a double. -/
def HasHugeWord : Option Json → Prop
  | some (.object members) => ∃ m ∈ members, IsHuge m.2
  | _ => False

/-- An entry of which some words have a weight without a double. -/
def HasHugeWeight (v : Json) : Prop :=
  ∃ fields, v.fields? = some fields ∧ HasHugeWord (fields.find? "tokens")

/-- The signature of an entry that can be read and is valid. -/
def vectorSignature? (v : Json) : Option (VectorSignature Float) :=
  (vectorSignature v).toOption.bind (·.1.value?)

theorem tokenWeight_cases (v : Json) :
    ¬ IsHuge v ∧ (∃ w, tokenWeight v = .ok w) ∨ IsHuge v ∧ tokenWeight v = .error .numberTooLarge := by
  cases v with
  | int n =>
    by_cases hn : overflow ≤ n.natAbs
    · exact .inr ⟨hn, Scalar.ofInt?_eq_error hn⟩
    · exact .inl ⟨hn, Scalar.exists_ofInt?_iff.mpr (Nat.lt_of_not_le hn)⟩
  | _ => exact .inl ⟨fun h => h, _, rfl⟩

theorem tokens_cases (v : Option Json) :
    ¬ HasHugeWord v ∧ (∃ words, tokens v = .ok words) ∨ HasHugeWord v ∧ tokens v = .error .numberTooLarge := by
  match v with
  | none => exact .inl ⟨fun h => h, [], rfl⟩
  | some v =>
    cases v with
    | object members =>
      have hcases := mapM_cases (P := fun m => IsHuge m.2) (e := NumericError.numberTooLarge)
        (f := fun m : String × Json => do return (m.1, ← tokenWeight m.2)) (fun m => ?_) members
      · simpa [tokens, HasHugeWord] using hcases
      · obtain ⟨hm, w, hw⟩ | ⟨hm, herror⟩ := tokenWeight_cases m.2
        · exact .inl ⟨hm, (m.1, w), by rw [hw]; rfl⟩
        · exact .inr ⟨hm, by rw [herror]; rfl⟩
    | _ => exact .inl ⟨fun h => h, [], rfl⟩

/-- An entry is read unless some words of it have a weight without a double, whatever else is wrong with it. -/
theorem vectorSignature_cases (v : Json) :
    ¬ HasHugeWeight v ∧ (∃ r, vectorSignature v = .ok r) ∨
      HasHugeWeight v ∧ vectorSignature v = .error .numberTooLarge := by
  unfold vectorSignature HasHugeWeight
  cases v.fields? with
  | none => exact .inl ⟨fun h => by simp at h, _, rfl⟩
  | some fields =>
    obtain ⟨hwords, words, hok⟩ | ⟨hwords, herror⟩ := tokens_cases (fields.find? "tokens")
    · refine .inl ⟨?_, _, by simp only [hok]; rfl⟩
      rintro ⟨_, hfields, hhuge⟩
      cases hfields
      exact hwords hhuge
    · exact .inr ⟨⟨fields, rfl, hwords⟩, by simp only [herror]; rfl⟩

theorem vectorSignaturesFrom_cases (place : String) (position : Nat) (items : List Json) :
    (∀ v ∈ items, ¬ HasHugeWeight v) ∧
        (∃ notes, vectorSignaturesFrom place position items = .ok (items.filterMap vectorSignature?, notes)) ∨
      (∃ v ∈ items, HasHugeWeight v) ∧ vectorSignaturesFrom place position items = .error .numberTooLarge := by
  induction items generalizing position with
  | nil => exact .inl ⟨fun _ hv => absurd hv List.not_mem_nil, [], rfl⟩
  | cons v items ih =>
    rw [vectorSignaturesFrom]
    obtain ⟨hv, ⟨checked, inner⟩, hchecked⟩ | ⟨hv, herror⟩ := vectorSignature_cases v
    · obtain ⟨hitems, notes, hnotes⟩ | ⟨⟨u, hu, hhuge⟩, herror⟩ := ih (position + 1)
      · refine .inl ⟨List.forall_mem_cons.mpr ⟨hv, hitems⟩, inner ++ (keep place position checked).2 ++ notes, ?_⟩
        have hvalue : vectorSignature? v = checked.value? := by rw [vectorSignature?, hchecked]; rfl
        have hkept : (keep place position checked).1 ++ items.filterMap vectorSignature? =
            (v :: items).filterMap vectorSignature? := by
          rw [keep_fst, List.filterMap_cons, hvalue]
          cases checked.value? <;> rfl
        rw [hchecked, hnotes, ← hkept]
        rfl
      · exact .inr ⟨⟨u, List.mem_cons_of_mem v hu, hhuge⟩, by rw [hchecked, herror]; rfl⟩
    · exact .inr ⟨⟨v, List.mem_cons_self, hv⟩, by rw [herror]; rfl⟩

end Document

namespace VectorDatabase

open Document (HasHugeWeight vectorSignature?)

/-- The entries of a document; none of one that is no list. -/
def entriesOf (doc : Json) : List Json :=
  doc.items?.getD []

/-- A document gives the database of those of its entries that are valid on their own, in their order, unless some
entry has a weight without a double. Then nothing is loaded at all. -/
theorem loads_unless_huge_weight (source : String) (doc : Json) :
    (∀ v ∈ entriesOf doc, ¬ HasHugeWeight v) ∧
        (∃ notes, ofDocument source doc =
          .ok ({ signatures := (entriesOf doc).filterMap vectorSignature?, source := some source }, notes)) ∨
      (∃ v ∈ entriesOf doc, HasHugeWeight v) ∧ ofDocument source doc = .error .numberTooLarge := by
  cases doc with
  | list items =>
    obtain ⟨hitems, notes, hok⟩ | ⟨hitems, herror⟩ := Document.vectorSignaturesFrom_cases source 0 items
    · exact .inl ⟨hitems, notes, by simp only [ofDocument, hok]; rfl⟩
    · exact .inr ⟨hitems, by simp only [ofDocument, herror]; rfl⟩
  | _ => exact .inl ⟨fun _ hv => absurd hv List.not_mem_nil, [], rfl⟩

/-- An entry with one word of the given weight. -/
def wordEntry (id word : String) (weight : Int) : Json :=
  .object [("id", .text id), ("tokens", .object [(word, .int weight)])]

/-- The first entry is valid on its own, but is lost with the second one. -/
theorem huge_weight_aborts :
    (vectorSignature? (wordEntry "A" "eval" 1)).map (·.id) = some "A" ∧
    ofDocument "<memory>" (.list [wordEntry "A" "eval" 1, wordEntry "B" "exec" (10 ^ 400)]) =
      .error .numberTooLarge := by
  refine ⟨by decide +kernel, ?_⟩
  have hhuge : overflow ≤ (10 ^ 400 : Int).natAbs := by decide +kernel
  have hweight : HasHugeWeight (wordEntry "B" "exec" (10 ^ 400)) :=
    ⟨_, rfl, ("exec", .int (10 ^ 400)), List.mem_singleton_self _, hhuge⟩
  obtain ⟨hnone, -⟩ | ⟨-, herror⟩ :=
    Document.vectorSignaturesFrom_cases "<memory>" 0 [wordEntry "A" "eval" 1, wordEntry "B" "exec" (10 ^ 400)]
  · exact absurd hweight (hnone _ (List.mem_cons_of_mem _ List.mem_cons_self))
  · simp only [ofDocument, herror]
    rfl

end VectorDatabase

end RiskGauge
