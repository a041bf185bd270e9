import RiskGauge.Proofs.Pattern.Ways

/-!
# Finding the matches of a pattern in a text

The matches in a text are found from left to right, each from the end of the one before it on. For the patterns that
take at least one character (`Pattern.Consumes`), the scan is described index by index:

* `countFrom_of_head`, `countFrom_of_nil`, `countFrom_end`: at an index where the pattern matches, the scan goes on
  behind the match; at any other it goes on with the next index, up to the end of the text;
* `findUpTo_of_matchAt?`, `findUpTo_of_none`, `findUpTo_end`: the steps of the scan for patterns of any kind;
* `occursIn_iff`: the pattern occurs in a text if it matches at some index;
* `exists_ways_of_mem_findAll`: every match in a text is a way to match at some index;
* `count_eq_countP`: if no match begins inside of another one, the matches are counted by the indices where they begin.
-/

namespace RiskGauge

namespace Cursor

/-- The place at an index of a text. -/
def ofIndex (text : List Char) (n : Nat) : Cursor :=
  (ofText text).advance n

variable (text : List Char) (n : Nat)

theorem ofIndex_eq : ofIndex text n =
    { before := (text.take n).reverse, after := text.drop n, left := text.length - n } := by
  simp [ofIndex, advance, ofText]

@[simp] theorem ofIndex_before : (ofIndex text n).before = (text.take n).reverse :=
  List.append_nil _

@[simp] theorem ofIndex_after : (ofIndex text n).after = text.drop n := rfl
@[simp] theorem ofIndex_left : (ofIndex text n).left = text.length - n := rfl
@[simp] theorem ofIndex_marks : (ofIndex text n).marks = [] := rfl

theorem ofIndex_advance (m : Nat) : (ofIndex text n).advance m = ofIndex text (n + m) :=
  advance_advance ..

theorem sound_ofIndex : (ofIndex text n).Sound :=
  (sound_ofText text).advance n

theorem ofIndex_inj {text : List Char} {m n : Nat} (hm : m ≤ text.length) (hn : n ≤ text.length)
    (h : ofIndex text m = ofIndex text n) : m = n := by
  have hleft := congrArg Cursor.left h
  simp only [ofIndex_left] at hleft
  omega

/-- The place without the groups that were matched on the way to it. -/
def unmarked (s : Cursor) : Cursor :=
  { s with marks := [] }

end Cursor

namespace Pattern

open Cursor (ofIndex)

variable {p : Pattern} {s t : Cursor} {text : List Char} {m n : Nat}

/-! ## The next match -/

theorem findFrom?_eq {rest : List Char} (h : s.after = rest) :
    p.findFrom? s rest = (List.range (rest.length + 1)).findSome? fun i => p.matchAt? (s.advance i) := by
  induction rest generalizing s with
  | nil =>
    rw [findFrom?, List.length_nil, List.range_one, List.findSome?_singleton]
    rfl
  | cons c rest ih =>
    have hnext : (s.advance 1).after = rest := by rw [Cursor.advance_after, h, List.drop_one, List.tail_cons]
    rw [findFrom?, ← Cursor.advance_one h, ih hnext, List.length_cons, List.range_succ_eq_map (n := _ + 1),
      List.findSome?_cons, List.findSome?_map, Cursor.advance_zero]
    simp only [Cursor.advance_advance, Function.comp_def, Nat.add_comm 1]
    cases p.matchAt? s <;> rfl

theorem findAt?_ofIndex (p : Pattern) (text : List Char) (n : Nat) : p.findAt? (ofIndex text n) =
    (List.range (text.length - n + 1)).findSome? fun i => p.matchAt? (ofIndex text (n + i)) := by
  rw [findAt?, findFrom?_eq rfl, Cursor.ofIndex_after, List.length_drop]
  simp only [Cursor.ofIndex_advance]

theorem matchAt?_ofIndex (p : Pattern) (text : List Char) (n : Nat) :
    p.matchAt? (ofIndex text n) = (p.ways (ofIndex text n)).head?.map fun t => ⟨ofIndex text n, t⟩ :=
  matchAt?_eq p (Cursor.ofIndex_marks text n)

/-- A pattern occurs in a text if it matches at some index of it. -/
theorem occursIn_iff : p.occursIn text = true ↔ ∃ n ≤ text.length, p.ways (ofIndex text n) ≠ [] := by
  have hfind : p.find? text = p.findAt? (ofIndex text 0) := rfl
  rw [occursIn, hfind, findAt?_ofIndex, List.findSome?_isSome_iff]
  simp only [Nat.sub_zero, List.mem_range, Nat.lt_succ_iff, Nat.zero_add, matchAt?_ofIndex, Option.isSome_map,
    List.isSome_head?]

theorem findAt?_of_head (h : (p.ways (ofIndex text n)).head? = some t) :
    p.findAt? (ofIndex text n) = some ⟨ofIndex text n, t⟩ := by
  rw [findAt?_ofIndex, List.range_succ_eq_map, List.findSome?_cons, Nat.add_zero, matchAt?_ofIndex, h]
  rfl

theorem findAt?_of_nil (hn : n < text.length) (h : p.ways (ofIndex text n) = []) :
    p.findAt? (ofIndex text n) = p.findAt? (ofIndex text (n + 1)) := by
  have hlength : text.length - n = text.length - (n + 1) + 1 := by omega
  rw [findAt?_ofIndex, findAt?_ofIndex, hlength, List.range_succ_eq_map (n := _ + 1), List.findSome?_cons,
    Nat.add_zero, matchAt?_ofIndex, h, List.findSome?_map]
  simp only [Function.comp_def, Nat.succ_eq_add_one, Nat.add_assoc, Nat.add_comm 1]
  rfl

/-! ## One match after the other -/

/-- The match at a place does not depend on the groups that were matched on the way to it. -/
theorem matchAt?_eq_unmarked (p : Pattern) (s : Cursor) :
    p.matchAt? s = (p.ways s.unmarked).head?.map fun t => ⟨s, t⟩ := by
  rw [matchAt?, run_eq_findSome?]
  show ((p.ways s.unmarked).findSome? some).map _ = _
  cases p.ways s.unmarked <;> rfl

/-- A match at the place itself is the next one, and the scan goes on behind it. -/
theorem findUpTo_of_matchAt? {found : Found} (h : p.matchAt? s = some found)
    (hleft : found.stop.left < found.start.left) (k : Nat) :
    p.findUpTo (k + 1) s = found :: p.findUpTo k found.stop := by
  have hfind : p.findAt? s = some found := by
    rw [findAt?]
    cases s.after with
    | nil => exact h
    | cons c rest => rw [findFrom?, h]
  rw [findUpTo, hfind]
  exact if_pos hleft

/-- Where there is no match, the scan goes on with the next character. -/
theorem findUpTo_of_none {c : Char} {rest : List Char} (hafter : s.after = c :: rest) (h : p.matchAt? s = none)
    (k : Nat) : p.findUpTo k s = p.findUpTo k (s.advance 1) := by
  have hnext : (s.advance 1).after = rest := by rw [Cursor.advance_after, hafter, List.drop_one, List.tail_cons]
  have hfind : p.findAt? s = p.findAt? (s.advance 1) := by
    rw [findAt?, findAt?, hafter, hnext, findFrom?, h, ← Cursor.advance_one hafter]
  cases k with
  | zero => rfl
  | succ k => rw [findUpTo, findUpTo, hfind]

theorem findUpTo_end (hafter : s.after = []) (h : p.matchAt? s = none) (k : Nat) : p.findUpTo k s = [] := by
  have hfind : p.findAt? s = none := by rw [findAt?, hafter, findFrom?, h]
  cases k with
  | zero => rfl
  | succ k => rw [findUpTo, hfind]

/-- The next match from an index on is a way to match at some index. The marks of the match before it do not count. -/
theorem exists_ways_of_findAt? {found : Found} (hs : s.unmarked = ofIndex text n) (h : p.findAt? s = some found) :
    ∃ i, found.stop ∈ p.ways (ofIndex text i) := by
  rw [findAt?, findFrom?_eq rfl] at h
  obtain ⟨i, -, hi⟩ := List.exists_of_findSome?_eq_some h
  have hplace : (s.advance i).unmarked = ofIndex text (n + i) := by
    rw [← Cursor.ofIndex_advance, ← hs]
    rfl
  obtain ⟨t, ht, rfl⟩ := Option.map_eq_some_iff.mp hi
  refine ⟨n + i, ?_⟩
  rw [← hplace]
  obtain ⟨u, hu, hut⟩ := List.exists_of_findSome?_eq_some ((run_eq_findSome? p _ some).symm.trans ht)
  obtain rfl := Option.some.inj hut
  exact hu

/-- So is every match in a text, if the matches of the pattern end at places of the text. -/
theorem exists_ways_of_mem_findAll {found : Found}
    (hp : ∀ i t, t ∈ p.ways (ofIndex text i) → ∃ j, t.unmarked = ofIndex text j) (h : found ∈ p.findAll text) :
    ∃ i, found.stop ∈ p.ways (ofIndex text i) := by
  have hfrom : ∀ k s n, s.unmarked = ofIndex text n → found ∈ p.findUpTo k s →
      ∃ i, found.stop ∈ p.ways (ofIndex text i) := by
    intro k
    induction k with
    | zero => exact fun _ _ _ h => nomatch h
    | succ k ih =>
      intro s n hs h
      rw [findUpTo] at h
      cases hfound : p.findAt? s with
      | none => rw [hfound] at h; cases h
      | some first =>
        obtain ⟨i, hi⟩ := exists_ways_of_findAt? hs hfound
        obtain ⟨j, hj⟩ := hp i first.stop hi
        simp only [hfound] at h
        split at h
        · obtain rfl | h := List.mem_cons.mp h
          · exact ⟨i, hi⟩
          · exact ih _ j hj h
        · cases h
  exact hfrom _ _ 0 rfl h

/-- A simple pattern that takes at least one character. -/
structure Consumes (p : Pattern) : Prop where
  simple : p.isSimple = true
  pos : 0 < p.leastLength

namespace Consumes

variable (hp : p.Consumes)

include hp

/-- A match ends further on in the text. -/
theorem exists_index (h : t ∈ p.ways (ofIndex text n)) : ∃ m, n < m ∧ m ≤ text.length ∧ t = ofIndex text m := by
  obtain ⟨k, hk, hle, rfl⟩ := exists_advance hp.simple h
  have hpos := hp.pos
  rw [Cursor.ofIndex_after, List.length_drop] at hle
  exact ⟨n + k, by omega, by omega, Cursor.ofIndex_advance ..⟩

theorem ways_end : p.ways (ofIndex text text.length) = [] := by
  refine List.eq_nil_iff_forall_not_mem.mpr fun t ht => ?_
  obtain ⟨m, hlt, hle, -⟩ := hp.exists_index ht
  omega

/-- The next match begins at the index or further on. -/
theorem exists_of_findAt? {found : Found} (h : p.findAt? (ofIndex text n) = some found) :
    ∃ i j, n ≤ i ∧ i < j ∧ j ≤ text.length ∧ found = ⟨ofIndex text i, ofIndex text j⟩ := by
  rw [findAt?_ofIndex] at h
  obtain ⟨i, -, hi⟩ := List.exists_of_findSome?_eq_some h
  rw [matchAt?_ofIndex] at hi
  obtain ⟨t, ht, rfl⟩ := Option.map_eq_some_iff.mp hi
  obtain ⟨j, hlt, hle, rfl⟩ := hp.exists_index (List.mem_of_head? ht)
  exact ⟨n + i, j, Nat.le_add_right n i, hlt, hle, rfl⟩

end Consumes

/-- The number of matches from an index on. -/
def countFrom (p : Pattern) (text : List Char) (n : Nat) : Nat :=
  (p.findUpTo (text.length - n + 1) (ofIndex text n)).length

theorem countFrom_zero (p : Pattern) (text : List Char) : p.countFrom text 0 = p.count text := rfl

theorem countFrom_of_findAt?_none (h : p.findAt? (ofIndex text n) = none) : p.countFrom text n = 0 := by
  rw [countFrom, findUpTo, h]
  rfl

namespace Consumes

variable (hp : p.Consumes)

include hp

/-- There are no more matches than characters, so a larger bound on their number changes nothing. -/
theorem length_findUpTo {k : Nat} (hk : text.length - n < k) :
    (p.findUpTo k (ofIndex text n)).length = p.countFrom text n := by
  induction k using Nat.strong_induction_on generalizing n with
  | h k ih =>
    obtain ⟨k, rfl⟩ : ∃ k', k = k' + 1 := ⟨k - 1, by omega⟩
    rw [countFrom, findUpTo, findUpTo]
    cases hfound : p.findAt? (ofIndex text n) with
    | none => rfl
    | some found =>
      obtain ⟨i, j, hi, hij, hj, rfl⟩ := hp.exists_of_findAt? hfound
      have hleft : (ofIndex text j).left < (ofIndex text i).left := by
        simp only [Cursor.ofIndex_left]
        omega
      simp only [if_pos hleft, List.length_cons]
      rw [ih k (by omega) (by omega), ih (text.length - n) (by omega) (by omega)]

theorem countFrom_of_findAt? {i j : Nat} (hi : n ≤ i) (hij : i < j) (hj : j ≤ text.length)
    (h : p.findAt? (ofIndex text n) = some ⟨ofIndex text i, ofIndex text j⟩) :
    p.countFrom text n = p.countFrom text j + 1 := by
  have hleft : (ofIndex text j).left < (ofIndex text i).left := by
    simp only [Cursor.ofIndex_left]
    omega
  rw [countFrom, findUpTo, h]
  simp only [if_pos hleft, List.length_cons]
  rw [hp.length_findUpTo (by omega)]

/-- At an index where the pattern matches, the scan goes on behind the match. -/
theorem countFrom_of_head (h : (p.ways (ofIndex text n)).head? = some (ofIndex text m)) (hm : m ≤ text.length) :
    p.countFrom text n = p.countFrom text m + 1 := by
  obtain ⟨j, hlt, hle, hj⟩ := hp.exists_index (List.mem_of_head? h)
  obtain rfl : m = j := Cursor.ofIndex_inj hm hle hj
  exact hp.countFrom_of_findAt? (Nat.le_refl n) hlt hle (findAt?_of_head h)

/-- At any other index it goes on with the next one. -/
theorem countFrom_of_nil (hn : n < text.length) (h : p.ways (ofIndex text n) = []) :
    p.countFrom text n = p.countFrom text (n + 1) := by
  have hnext := findAt?_of_nil hn h
  cases hfound : p.findAt? (ofIndex text (n + 1)) with
  | none => rw [countFrom_of_findAt?_none hfound, countFrom_of_findAt?_none (hnext.trans hfound)]
  | some found =>
    obtain ⟨i, j, hi, hij, hj, rfl⟩ := hp.exists_of_findAt? hfound
    rw [hp.countFrom_of_findAt? hi hij hj hfound, hp.countFrom_of_findAt? (by omega) hij hj (hnext.trans hfound)]

theorem countFrom_end : p.countFrom text text.length = 0 := by
  refine countFrom_of_findAt?_none ?_
  rw [findAt?_ofIndex, Nat.sub_self, List.range_one, List.findSome?_singleton, Nat.add_zero, matchAt?_ofIndex,
    hp.ways_end]
  rfl

end Consumes

/-! ## Matches that do not overlap -/

/-- No match in the text begins inside of another one. -/
def Apart (p : Pattern) (text : List Char) : Prop :=
  ∀ n m, m ≤ text.length → ofIndex text m ∈ p.ways (ofIndex text n) →
    ∀ i, n < i → i < m → p.ways (ofIndex text i) = []

theorem Consumes.countFrom_eq_countP (hp : p.Consumes) (h : p.Apart text) (hn : n ≤ text.length) :
    p.countFrom text n =
      (List.range' n (text.length - n)).countP fun i => !(p.ways (ofIndex text i)).isEmpty := by
  -- by induction on the distance to the end of the text
  induction hd : text.length - n using Nat.strong_induction_on generalizing n with
  | h d ih =>
    obtain hlt | rfl := Nat.lt_or_eq_of_le hn
    · cases hways : p.ways (ofIndex text n) with
      | nil =>
        obtain ⟨k, rfl⟩ : ∃ k, d = k + 1 := ⟨d - 1, by omega⟩
        rw [hp.countFrom_of_nil hlt hways, ih k (by omega) hlt (by omega), List.range'_succ, List.countP_cons_of_neg]
        simp [hways]
      | cons t ts =>
        obtain ⟨m, hnm, hm, rfl⟩ := hp.exists_index (hways ▸ List.mem_cons_self)
        have hhead : (p.ways (ofIndex text n)).head? = some (ofIndex text m) := by rw [hways, List.head?_cons]
        have hsplit : List.range' n d = n :: (List.range' (n + 1) (m - n - 1) ++ List.range' m (text.length - m)) := by
          obtain ⟨k, rfl⟩ : ∃ k, m = n + 1 + k := ⟨m - n - 1, by omega⟩
          have hk : n + 1 + k - n - 1 = k := by omega
          have hsum : d = k + (text.length - (n + 1 + k)) + 1 := by omega
          rw [hk, hsum, List.range'_succ, ← List.range'_append_1]
        have hinside : (List.range' (n + 1) (m - n - 1)).countP (fun i => !(p.ways (ofIndex text i)).isEmpty) = 0 := by
          refine List.countP_eq_zero.mpr fun i hi => ?_
          obtain ⟨hni, him⟩ := List.mem_range'_1.mp hi
          simp [h n m hm (List.mem_of_head? hhead) i (by omega) (by omega)]
        rw [hp.countFrom_of_head hhead hm, ih (text.length - m) (by omega) hm rfl, hsplit, List.countP_cons_of_pos,
          List.countP_append, hinside, Nat.zero_add]
        simp [hways]
    · obtain rfl : d = 0 := by omega
      rw [hp.countFrom_end]
      rfl

/-- Matches that do not overlap are counted by the indices where they begin. -/
theorem Consumes.count_eq_countP (hp : p.Consumes) (h : p.Apart text) :
    p.count text = (List.range text.length).countP fun i => !(p.ways (ofIndex text i)).isEmpty := by
  rw [← countFrom_zero, hp.countFrom_eq_countP h (Nat.zero_le _), Nat.sub_zero, List.range_eq_range']

end Pattern

end RiskGauge
