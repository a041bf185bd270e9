import Mathlib.Data.List.Induction
import Mathlib.Data.List.Nodup
import RiskGauge.Entries

/-!
# What entries hold

Setting an entry changes its value and no other (`find?_assign`), so of several pairs of one name the last one
counts (`find?_ofPairs`), and there are not more entries than pairs (`length_ofPairs_le`); pairs of different names are
the entries themselves (`ofPairs_of_nodup`). Every name comes once (`nodup_names_assign`), so entries can be counted by
their names (`countP_eq_of_names`). It makes no difference whether an entry is set before or after others are left out
(`filter_assign`), and a name is found among those that are kept if its value is (`find?_filter_of_nodup`).
-/

namespace RiskGauge.Entries

variable {α : Type}

theorem find?_assign (es : Entries α) (name : String) (value : α) (key : String) :
    (es.assign name value).find? key = if name = key then some value else es.find? key := by
  induction es with
  | nil => rfl
  | cons e es ih =>
    obtain ⟨n, v⟩ := e
    by_cases hn : n = name
    · subst hn
      by_cases hkey : n = key <;> simp [assign, find?, hkey]
    · by_cases hkey : n = key
      · subst hkey
        simp [assign, find?, hn, Ne.symm hn]
      · simp [assign, find?, hn, hkey, ih]

theorem find?_change (es : Entries α) (name : String) (start : α) (f : α → α) (key : String) :
    (es.change name start f).find? key = if name = key then some (f ((es.find? name).getD start)) else es.find? key :=
  find?_assign ..

theorem isSome_find? {es : Entries α} {name : String} : (es.find? name).isSome = true ↔ name ∈ es.names := by
  induction es with
  | nil => simp [find?, names]
  | cons e es ih =>
    obtain ⟨n, v⟩ := e
    by_cases hn : n = name
    · simp [find?, names, hn]
    · simp only [find?, hn, if_false, ih, names, List.map_cons, List.mem_cons, Ne.symm hn, false_or]

theorem mem_names_assign {es : Entries α} {name key : String} {value : α} :
    key ∈ (es.assign name value).names ↔ name = key ∨ key ∈ es.names := by
  rw [← isSome_find?, find?_assign, ← isSome_find?]
  by_cases hkey : name = key <;> simp [hkey]

/-- Every name still comes once after an entry is set. -/
theorem nodup_names_assign {es : Entries α} (h : es.names.Nodup) (name : String) (value : α) :
    (es.assign name value).names.Nodup := by
  induction es with
  | nil => simp [assign, names]
  | cons e es ih =>
    obtain ⟨n, v⟩ := e
    obtain ⟨hn, hrest⟩ := List.nodup_cons.mp h
    by_cases hname : n = name
    · simpa [assign, hname, names] using h
    · simp only [assign, hname, if_false]
      refine List.nodup_cons.mpr ⟨fun hmem => ?_, ih hrest⟩
      obtain rfl | hmem := mem_names_assign.mp hmem
      · exact hname rfl
      · exact hn hmem

theorem find?_filter {es : Entries α} {name : String} {value : α} {p : String × α → Bool}
    (h : es.find? name = some value) (hp : p (name, value) = true) :
    Entries.find? name (es.filter p) = some value := by
  induction es with
  | nil => cases h
  | cons e es ih =>
    obtain ⟨n, v⟩ := e
    by_cases hn : n = name
    · subst hn
      obtain rfl : v = value := by simpa [find?] using h
      simp [find?, hp]
    · have hrest : find? name es = some value := by simpa [find?, hn] using h
      cases htest : p (n, v) <;> simp [find?, hn, htest, ih hrest]

/-- Setting an entry that passes a test, to a value that passes it, and leaving out what fails it. -/
theorem filter_assign {es : Entries α} {name : String} {old value : α} {p : String × α → Bool}
    (hold : es.find? name = some old) (hp : p (name, old) = true) (hv : p (name, value) = true) :
    (es.assign name value).filter p = Entries.assign name value (es.filter p) := by
  induction es with
  | nil => cases hold
  | cons e es ih =>
    obtain ⟨n, v⟩ := e
    by_cases hn : n = name
    · subst hn
      obtain rfl : v = old := by simpa [find?] using hold
      simp [assign, hp, hv]
    · have hrest : find? name es = some old := by simpa [find?, hn] using hold
      cases htest : p (n, v) <;> simp [assign, hn, htest, ih hrest]

theorem find?_map {β : Type} (f : String → α → β) (es : Entries α) (name : String) :
    Entries.find? name (es.map fun e => (e.1, f e.1 e.2)) = (es.find? name).map (f name) := by
  induction es with
  | nil => rfl
  | cons e es ih =>
    obtain ⟨n, v⟩ := e
    by_cases hn : n = name
    · simp [find?, hn]
    · simpa [find?, hn] using ih

theorem ofPairs_append_singleton (pairs : List (String × α)) (p : String × α) :
    ofPairs (pairs ++ [p]) = (ofPairs pairs).assign p.1 p.2 := by
  simp [ofPairs]

theorem find?_ofPairs (pairs : List (String × α)) (key : String) :
    (ofPairs pairs).find? key = (pairs.reverse.find? (·.1 = key)).map (·.2) := by
  induction pairs using List.reverseRecOn with
  | nil => rfl
  | append_singleton pairs p ih =>
    rw [ofPairs_append_singleton, find?_assign, ih]
    by_cases hkey : p.1 = key <;> simp [hkey]

theorem length_assign_le (es : Entries α) (name : String) (value : α) :
    (es.assign name value).length ≤ es.length + 1 := by
  induction es with
  | nil => simp [assign]
  | cons e es ih =>
    obtain ⟨n, v⟩ := e
    by_cases hn : n = name
    · simp [assign, hn]
    · simpa [assign, hn] using ih

theorem length_ofPairs_le (pairs : List (String × α)) : (ofPairs pairs).length ≤ pairs.length := by
  induction pairs using List.reverseRecOn with
  | nil => exact Nat.le_refl 0
  | append_singleton pairs p ih =>
    rw [ofPairs_append_singleton, List.length_append, List.length_singleton]
    exact Nat.le_trans (length_assign_le ..) (Nat.succ_le_succ ih)

theorem assign_of_not_mem {es : Entries α} {name : String} (h : name ∉ es.names) (value : α) :
    es.assign name value = es ++ [(name, value)] := by
  induction es with
  | nil => rfl
  | cons e es ih =>
    obtain ⟨n, v⟩ := e
    obtain ⟨hn, hes⟩ : name ≠ n ∧ name ∉ names es := by simpa [names] using h
    rw [assign, if_neg (Ne.symm hn), ih hes, List.cons_append]

/-- Pairs of different names are entries as they stand. -/
theorem ofPairs_of_nodup {pairs : List (String × α)} (h : (pairs.map Prod.fst).Nodup) : ofPairs pairs = pairs := by
  induction pairs using List.reverseRecOn with
  | nil => rfl
  | append_singleton pairs p ih =>
    rw [List.map_append, List.nodup_append] at h
    have hnew : p.1 ∉ names pairs := fun hp => h.2.2 p.1 hp p.1 (by simp) rfl
    rw [ofPairs_append_singleton, ih h.1, assign_of_not_mem hnew]

theorem nodup_names_ofPairs (pairs : List (String × α)) : (ofPairs pairs).names.Nodup := by
  induction pairs using List.reverseRecOn with
  | nil => exact List.nodup_nil
  | append_singleton pairs p ih =>
    rw [ofPairs_append_singleton]
    exact nodup_names_assign ih _ _

theorem mem_iff_find? {es : Entries α} (h : es.names.Nodup) {name : String} {value : α} :
    (name, value) ∈ es ↔ es.find? name = some value := by
  induction es with
  | nil => simp [find?]
  | cons e es ih =>
    obtain ⟨n, v⟩ := e
    obtain ⟨hn, hes⟩ := List.nodup_cons.mp h
    rw [List.mem_cons, ih hes, Prod.mk.injEq]
    by_cases hname : n = name
    · subst hname
      have hnone : find? n es = none := by simpa using isSome_find?.not.mpr hn
      simp [find?, hnone, eq_comm]
    · simp [find?, hname, Ne.symm hname]

theorem find?_filter_of_nodup {es : Entries α} (h : es.names.Nodup) (p : String × α → Bool) (name : String) :
    Entries.find? name (es.filter p) = (es.find? name).filter fun v => p (name, v) := by
  have hfilter : (names (es.filter p)).Nodup := h.sublist (List.filter_sublist.map _)
  ext v
  rw [← mem_iff_find? hfilter, List.mem_filter, mem_iff_find? h, Option.filter_eq_some_iff]

/-- The names of the entries that pass a test. -/
theorem mem_names_filter {es : Entries α} (h : es.names.Nodup) {p : String × α → Bool} {name : String} :
    name ∈ names (es.filter p) ↔ (es.find? name).any (fun v => p (name, v)) = true := by
  simp only [names, List.mem_map, List.mem_filter, Option.any_eq_true]
  constructor
  · rintro ⟨⟨n, v⟩, ⟨hv, hp⟩, rfl⟩
    exact ⟨v, (mem_iff_find? h).mp hv, hp⟩
  · rintro ⟨v, hv, hp⟩
    exact ⟨(name, v), ⟨(mem_iff_find? h).mpr hv, hp⟩, rfl⟩

/-- As many entries pass a test as others pass another one, if the names of those that pass are the same. -/
theorem countP_eq_of_names {β : Type} {es : Entries α} {fs : Entries β} (hes : es.names.Nodup) (hfs : fs.names.Nodup)
    {p : String × α → Bool} {q : String × β → Bool}
    (h : ∀ name, (es.find? name).any (fun v => p (name, v)) = (fs.find? name).any (fun v => q (name, v))) :
    es.countP p = fs.countP q := by
  have hp : (names (es.filter p)).Nodup := hes.sublist (List.filter_sublist.map _)
  have hq : (names (fs.filter q)).Nodup := hfs.sublist (List.filter_sublist.map _)
  have hnames : (names (es.filter p)).Perm (names (fs.filter q)) := by
    refine (List.perm_ext_iff_of_nodup hp hq).mpr fun name => ?_
    rw [mem_names_filter hes, mem_names_filter hfs, h name]
  rw [List.countP_eq_length_filter, List.countP_eq_length_filter]
  simpa [names] using hnames.length_eq

end RiskGauge.Entries
