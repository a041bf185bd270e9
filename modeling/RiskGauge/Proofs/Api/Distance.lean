import Mathlib.Data.Finset.Card
import RiskGauge.Proofs.Api.Changes

/-!
# The distance between two APIs

The three counts of `Api.diff` are taken in two lists of entries. Seen from the names, each of them is the size of a set:
the names that only one list declares (`added_diff`, `removed_diff`), and the names that both declare with another last
text (`changed_diff_eq_card`). Together they are the names whose last texts differ, where no text differs from every
text (`changes_diff`). So the number of changes is a distance, up to lists with the same last texts.
-/

namespace RiskGauge

/-- The entries that pass a test are as many as there are names with such an entry. -/
theorem Entries.countP_eq_card {α : Type} {es : Entries α} (hes : es.names.Nodup) {p : String × α → Bool}
    {s : Finset String} (hs : ∀ name, name ∈ s ↔ (es.find? name).any (fun v => p (name, v)) = true) :
    es.countP p = s.card := by
  have hnodup : (names (es.filter p)).Nodup := hes.sublist (List.filter_sublist.map _)
  have hset : (names (es.filter p)).toFinset = s := by
    ext name
    rw [List.mem_toFinset, mem_names_filter hes, hs name]
  rw [← hset, List.toFinset_card_of_nodup hnodup, List.countP_eq_length_filter, names, List.length_map]

namespace Api

variable (x y z : List Signature)

/-- The names that are declared. -/
def declared (xs : List Signature) : Finset String :=
  (xs.map (·.name)).toFinset

/-- The text of the last declaration of a name. -/
def lastText? (xs : List Signature) (name : String) : Option String :=
  (xs.reverse.find? (·.name = name)).map (·.text)

/-- The names whose last texts differ. -/
def differing : Finset String :=
  (declared x ∪ declared y).filter fun name => lastText? x name ≠ lastText? y name

theorem isSome_lastText? {xs : List Signature} {name : String} :
    (lastText? xs name).isSome = true ↔ name ∈ declared xs := by
  simp [lastText?, declared]

theorem lastText?_eq_none {xs : List Signature} {name : String} (h : name ∉ declared xs) : lastText? xs name = none := by
  simpa using isSome_lastText?.not.mpr h

theorem find?_latest (xs : List Signature) (name : String) : (latest xs).find? name = lastText? xs name := by
  rw [latest, Entries.find?_ofPairs, ← List.map_reverse, List.find?_map, Option.map_map]
  rfl

theorem mem_differing {x y : List Signature} {name : String} :
    name ∈ differing x y ↔ lastText? x name ≠ lastText? y name := by
  rw [differing, Finset.mem_filter, Finset.mem_union, and_iff_right_iff_imp]
  intro hne
  by_contra hnot
  rw [not_or] at hnot
  exact hne (by rw [lastText?_eq_none hnot.1, lastText?_eq_none hnot.2])

/-! ## The counts as sizes of sets -/

theorem added_diff : (diff x y).added = (declared y \ declared x).card := by
  refine Entries.countP_eq_card (nodup_names_latest y) fun name => ?_
  rw [Finset.mem_sdiff, ← isSome_lastText?, ← isSome_lastText?, find?_latest]
  simp only [Entries.has, find?_latest]
  cases lastText? y name <;> cases lastText? x name <;> simp

theorem removed_diff : (diff x y).removed = (declared x \ declared y).card :=
  added_diff y x

theorem changed_diff_eq_card : (diff x y).changed = (differing x y ∩ (declared x ∩ declared y)).card := by
  refine Entries.countP_eq_card (nodup_names_latest x) fun name => ?_
  rw [Finset.mem_inter, Finset.mem_inter, mem_differing, ← isSome_lastText?, ← isSome_lastText?, find?_latest]
  simp only [find?_latest]
  cases lastText? x name <;> cases lastText? y name <;> simp [ne_comm]

theorem differing_comm : differing x y = differing y x := by
  ext name
  rw [mem_differing, mem_differing, ne_comm]

/-- A name that differs is declared in both lists or in one of them only; in the latter case it always differs. -/
theorem differing_sdiff : differing x y \ (declared x ∩ declared y) =
    (declared y \ declared x) ∪ (declared x \ declared y) := by
  ext name
  simp only [Finset.mem_sdiff, Finset.mem_union, Finset.mem_inter, mem_differing, ← isSome_lastText?]
  cases lastText? x name <;> cases lastText? y name <;> simp

/-- The number of changes is the number of names that differ. -/
theorem changes_diff : (diff x y).changes = (differing x y).card := by
  have hdisjoint : Disjoint (declared y \ declared x) (declared x \ declared y) := disjoint_sdiff_sdiff
  rw [Diff.changes, added_diff, removed_diff, changed_diff_eq_card, ← Finset.card_union_of_disjoint hdisjoint,
    ← differing_sdiff, Finset.card_sdiff_add_card_inter]

/-! ## The distance -/

/-- Two lists have no changes between them exactly if the same texts are the last ones. -/
theorem changes_eq_zero_iff : (diff x y).changes = 0 ↔ lastText? x = lastText? y := by
  rw [changes_diff, Finset.card_eq_zero, Finset.eq_empty_iff_forall_notMem, funext_iff]
  exact forall_congr' fun name => by rw [mem_differing, not_not]

/-- A name that differs between two lists differs from a third list in one of them. -/
theorem differing_subset_union : differing x z ⊆ differing x y ∪ differing y z := by
  intro name hname
  rw [Finset.mem_union, mem_differing, mem_differing]
  rw [mem_differing] at hname
  by_contra hnot
  rw [not_or, not_not, not_not] at hnot
  exact hname (hnot.1.trans hnot.2)

theorem changes_triangle : (diff x z).changes ≤ (diff x y).changes + (diff y z).changes := by
  rw [changes_diff, changes_diff, changes_diff]
  calc (differing x z).card ≤ (differing x y ∪ differing y z).card := Finset.card_le_card (differing_subset_union x y z)
    _ ≤ (differing x y).card + (differing y z).card := Finset.card_union_le ..

/-- Without the names that were removed, a list has those that both declare. -/
theorem card_declared_sub : ((declared x).card : Int) - (diff x y).removed = (declared x ∩ declared y).card := by
  have hcard := Finset.card_sdiff_add_card_inter (declared x) (declared y)
  rw [removed_diff]
  omega

/-- The changes of an API are a distance between lists of declarations that may declare a name more than once. In the
other direction the added and the removed names are exchanged and all else is the same; there is no distance exactly
between lists with the same last texts; the way over a third list is not shorter; and as many names are left of one list
without the removed ones as of the other without the added ones. -/
theorem diff_pseudometric :
    ((diff y x).added = (diff x y).removed ∧ (diff y x).removed = (diff x y).added ∧
      (diff y x).changed = (diff x y).changed ∧ (diff y x).changes = (diff x y).changes ∧
      (diff y x).total = (diff x y).total) ∧
    ((diff x y).changes = 0 ↔ lastText? x = lastText? y) ∧
    (diff x z).changes ≤ (diff x y).changes + (diff y z).changes ∧
    ((declared x).card : Int) - (diff x y).removed = (declared y).card - (diff x y).added := by
  refine ⟨⟨rfl, rfl, ?_, ?_, ?_⟩, changes_eq_zero_iff x y, changes_triangle x y z, ?_⟩
  · rw [changed_diff_eq_card, changed_diff_eq_card, differing_comm, Finset.inter_comm (declared y)]
  · rw [changes_diff, changes_diff, differing_comm]
  · exact Nat.max_comm ..
  · have hback := card_declared_sub y x
    rw [Finset.inter_comm] at hback
    exact (card_declared_sub x y).trans hback.symm

end Api

end RiskGauge
