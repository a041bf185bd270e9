import RiskGauge.Proofs.Pattern.Language
import RiskGauge.Proofs.Pattern.Scan

/-!
# The places that a scan visits

The scan of a text for a pattern with a group goes from index to index: where the pattern does not match, to the next
one, and else to the end of the match (`Pattern.Visits`). The matches in a text are those at the indices that are visited
(`finds_iff`).

A pattern is settled (`Pattern.Settled`) if of two matches the one that begins further on ends further on, and if a match
does not depend on what follows it, beyond one character. The matches that the scan finds then do not depend on what
follows them either (`Settled.finds_append`): no match that would begin before them could reach further.
-/

namespace RiskGauge

namespace Cursor

variable {s : Cursor} {text v w rest : List Char}

/-- The place behind a group of characters and the characters that follow it. -/
def overGroup (n k : Nat) (s : Cursor) : Cursor :=
  (((s.openGroup 1).advance n).closeGroup 1).advance k

theorem unmarked_overGroup (n k : Nat) (s : Cursor) : (s.overGroup n k).unmarked = s.unmarked.advance (n + k) := by
  rw [← advance_advance]
  rfl

@[simp] theorem text_overGroup (n k : Nat) (s : Cursor) : (s.overGroup n k).text = s.text := by
  simp [overGroup]

theorem sound_overGroup (hs : s.Sound) (n k : Nat) : (s.overGroup n k).Sound :=
  Sound.advance (s := ((s.openGroup 1).advance n).closeGroup 1) (hs.advance n) k

theorem Sound.group?_overGroup (hs : s.Sound) (h : v ++ w <+: s.after) :
    (s.overGroup v.length w.length).group? 1 = some v := by
  obtain ⟨rest, hrest⟩ := h
  have htext : (s.overGroup v.length w.length).text = s.before.reverse ++ (v ++ (w ++ rest)) := by
    rw [text_overGroup, text, ← hrest, List.append_assoc]
  have hbetween := (sound_overGroup hs v.length w.length).between_eq htext
  have hstart : v.length + (w ++ rest).length = s.left := by
    rw [hs, ← hrest, List.append_assoc, ← List.length_append]
  have hgroup : (s.overGroup v.length w.length).group? 1 =
      some ((s.overGroup v.length w.length).between s.left (s.left - v.length)) := by
    simp [group?, mark?, overGroup, closeGroup, openGroup, Cursor.advance]
  rw [hstart, show (w ++ rest).length = s.left - v.length by omega] at hbetween
  rw [hgroup, hbetween]

/-- Behind a group that is not empty and the text that follows it. -/
theorem exists_index_overGroup {k : Nat} (hne : v ≠ []) (h : text.drop k = v ++ (w ++ rest)) :
    ∃ j ≤ text.length, ((ofIndex text k).overGroup v.length w.length).unmarked = ofIndex text j ∧
      ((ofIndex text k).overGroup v.length w.length).group? 1 = some v ∧ text.drop j = rest := by
  have hlengths := congrArg List.length h
  have hpos := List.length_pos_iff.mpr hne
  simp only [List.length_drop, List.length_append] at hlengths
  refine ⟨k + (v.length + w.length), by omega, ?_, ?_, ?_⟩
  · rw [unmarked_overGroup]
    exact ofIndex_advance text k _
  · refine (sound_ofIndex text k).group?_overGroup ⟨rest, ?_⟩
    rw [ofIndex_after, h, List.append_assoc]
  · rw [← List.drop_drop, h, ← List.append_assoc, ← List.length_append, List.drop_left]

end Cursor

namespace Pattern

open Cursor (ofIndex)

variable {p : Pattern} {s t : Cursor} {text a back name name' : List Char} {i j i' j' n : Nat}

/-- A group with plain patterns inside and behind it. -/
theorem mem_ways_overGroup {q : Pattern} {front rear : List Pattern} (hq : q.isPlain = true)
    (hrear : (all rear).isPlain = true) :
    t ∈ (all (front ++ group 1 q :: rear)).ways s ↔ ∃ f ∈ (all front).ways s, ∃ v ∈ q.language,
      ∃ w ∈ (all rear).language, v ++ w <+: f.after ∧ t = f.overGroup v.length w.length := by
  simp only [mem_ways_all_append, mem_ways_all_cons, mem_ways_group, mem_ways_iff hq, mem_ways_iff hrear]
  refine exists_congr fun f => and_congr_right fun _ => ?_
  constructor
  · rintro ⟨_, ⟨_, ⟨v, hv, hprefix, rfl⟩, rfl⟩, w, hw, hprefix', rfl⟩
    obtain ⟨rest, hrest⟩ := hprefix
    have hrest : v ++ rest = f.after := hrest
    have hprefix' : w <+: f.after.drop v.length := hprefix'
    rw [← hrest, List.drop_left] at hprefix'
    exact ⟨v, hv, w, hw, hrest ▸ (List.prefix_append_right_inj v).mpr hprefix', rfl⟩
  · rintro ⟨v, hv, w, hw, ⟨rest, hrest⟩, rfl⟩
    refine ⟨_, ⟨_, ⟨v, hv, ⟨w ++ rest, ?_⟩, rfl⟩, rfl⟩, w, hw, ⟨rest, ?_⟩, rfl⟩
    · rw [← List.append_assoc]
      exact hrest
    · show w ++ rest = f.after.drop v.length
      rw [← hrest, List.append_assoc, List.drop_left]

/-! ## The first match at an index -/

/-- The first match at an index ends at another one, and this is its first group. -/
def FirstMatch (p : Pattern) (text : List Char) (i j : Nat) (name : List Char) : Prop :=
  ∃ t, (p.ways (ofIndex text i)).head? = some t ∧ j ≤ text.length ∧ t.unmarked = ofIndex text j ∧ t.group? 1 = some name

theorem FirstMatch.ways_ne_nil (h : FirstMatch p text i j name) : p.ways (ofIndex text i) ≠ [] := by
  obtain ⟨t, ht, -⟩ := h
  exact List.ne_nil_of_mem (List.mem_of_head? ht)

theorem FirstMatch.le_length (h : FirstMatch p text i j name) : j ≤ text.length := by
  obtain ⟨-, -, hj, -⟩ := h
  exact hj

theorem FirstMatch.unique (h : FirstMatch p text i j name) (h' : FirstMatch p text i j' name') :
    j = j' ∧ name = name' := by
  obtain ⟨t, ht, hj, hplace, hgroup⟩ := h
  obtain ⟨t', ht', hj', hplace', hgroup'⟩ := h'
  obtain rfl := Option.some.inj (ht.symm.trans ht')
  exact ⟨Cursor.ofIndex_inj hj hj' (hplace.symm.trans hplace'), Option.some.inj (hgroup.symm.trans hgroup')⟩

/-- Every match is a stretch of text that is not empty, with a first group. -/
def Proceeds (p : Pattern) : Prop :=
  ∀ text i, p.ways (ofIndex text i) ≠ [] → ∃ j name, i < j ∧ FirstMatch p text i j name

theorem Proceeds.lt (hp : p.Proceeds) (h : FirstMatch p text i j name) : i < j := by
  obtain ⟨k, other, hik, hother⟩ := hp text i h.ways_ne_nil
  rwa [(h.unique hother).1]

/-! ## One index after the other -/

/-- The scan of a text comes to an index. -/
inductive Visits (p : Pattern) (text : List Char) : Nat → Prop
  | start : Visits p text 0
  | next {n : Nat} : Visits p text n → n < text.length → p.ways (ofIndex text n) = [] → Visits p text (n + 1)
  | jump {n m : Nat} {name : List Char} : Visits p text n → FirstMatch p text n m name → Visits p text m

section Scan

variable (hs : s.unmarked = ofIndex text n)

include hs

theorem matchAt?_of_unmarked (p : Pattern) :
    p.matchAt? s = (p.ways (ofIndex text n)).head?.map fun t => ⟨s, t⟩ :=
  hs ▸ matchAt?_eq_unmarked p s

theorem after_of_unmarked : s.after = text.drop n :=
  congrArg Cursor.after hs

theorem unmarked_advance_one : (s.advance 1).unmarked = ofIndex text (n + 1) := by
  rw [← Cursor.ofIndex_advance, ← hs]
  rfl

/-- The next match is one at an index that is visited. -/
theorem Visits.exists_of_findFrom? {rest : List Char} {found : Found} (hn : Visits p text n)
    (hrest : s.after = rest) (h : p.findFrom? s rest = some found) :
    ∃ i, Visits p text i ∧ (p.ways (ofIndex text i)).head? = some found.stop := by
  induction rest generalizing s n with
  | nil =>
    rw [findFrom?, matchAt?_of_unmarked hs] at h
    obtain ⟨t, ht, rfl⟩ := Option.map_eq_some_iff.mp h
    exact ⟨n, hn, ht⟩
  | cons c rest ih =>
    rw [findFrom?, matchAt?_of_unmarked hs] at h
    cases hhead : (p.ways (ofIndex text n)).head? with
    | some t =>
      rw [hhead] at h
      obtain rfl := Option.some.inj h
      exact ⟨n, hn, hhead⟩
    | none =>
      have hlength := congrArg List.length ((after_of_unmarked hs).symm.trans hrest)
      rw [List.length_drop, List.length_cons] at hlength
      have hnext := hn.next (by omega) (List.head?_eq_none_iff.mp hhead)
      rw [hhead, ← Cursor.advance_one hrest] at h
      refine ih (unmarked_advance_one hs) hnext ?_ h
      rw [Cursor.advance_after, hrest, List.drop_one, List.tail_cons]

/-- So is every match from an index on that is visited. -/
theorem Visits.exists_of_mem_findUpTo (hp : p.Proceeds) (hn : Visits p text n) {k : Nat} {found : Found}
    (h : found ∈ p.findUpTo k s) : ∃ i, Visits p text i ∧ (p.ways (ofIndex text i)).head? = some found.stop := by
  induction k generalizing s n with
  | zero => cases h
  | succ k ih =>
    rw [findUpTo] at h
    cases hfirst : p.findAt? s with
    | none => rw [hfirst] at h; cases h
    | some first =>
      obtain ⟨i, hi, hhead⟩ := hn.exists_of_findFrom? hs rfl hfirst
      simp only [hfirst] at h
      split at h
      · obtain rfl | h := List.mem_cons.mp h
        · exact ⟨i, hi, hhead⟩
        · obtain ⟨j, name, -, hmatch⟩ := hp text i (List.ne_nil_of_mem (List.mem_of_head? hhead))
          have hjump := hi.jump hmatch
          obtain ⟨t, ht, -, hplace, -⟩ := hmatch
          obtain rfl := Option.some.inj (ht.symm.trans hhead)
          exact ih hplace hjump h
      · cases h

/-- A match at an index is found there, and the scan goes on behind it. -/
theorem FirstMatch.exists_findUpTo (hp : p.Proceeds) (h : FirstMatch p text n j name) :
    ∃ t, t.unmarked = ofIndex text j ∧ t.group? 1 = some name ∧ ∀ k, p.findUpTo (k + 1) s = ⟨s, t⟩ :: p.findUpTo k t := by
  have hlt := hp.lt h
  obtain ⟨t, ht, hj, hplace, hgroup⟩ := h
  have hfound : p.matchAt? s = some ⟨s, t⟩ := by
    rw [matchAt?_of_unmarked hs, ht]
    rfl
  have hleft : t.left < s.left := by
    rw [show t.left = text.length - j from congrArg Cursor.left hplace,
      show s.left = text.length - n from congrArg Cursor.left hs]
    omega
  exact ⟨t, hplace, hgroup, findUpTo_of_matchAt? hfound hleft⟩

end Scan

/-- From an index that is visited on, the scan finds matches of the text, and the bound on their number is none. -/
theorem Visits.exists_findUpTo (hp : p.Proceeds) (hn : Visits p text n) :
    ∃ k s, text.length - n < k ∧ s.unmarked = ofIndex text n ∧ p.findUpTo k s ⊆ p.findAll text := by
  induction hn with
  | start => exact ⟨text.length + 1, .ofText text, by omega, rfl, List.Subset.refl _⟩
  | @next n hn hlt hways ih =>
    obtain ⟨k, s, hk, hs, hsub⟩ := ih
    have hafter : s.after = text.get ⟨n, hlt⟩ :: text.drop (n + 1) :=
      (after_of_unmarked hs).trans (List.drop_eq_getElem_cons hlt)
    have hnone : p.matchAt? s = none := by
      rw [matchAt?_of_unmarked hs, hways]
      rfl
    refine ⟨k, s.advance 1, by omega, unmarked_advance_one hs, ?_⟩
    rwa [← findUpTo_of_none hafter hnone]
  | @jump n m name hn hmatch ih =>
    obtain ⟨k, s, hk, hs, hsub⟩ := ih
    have hlt := hp.lt hmatch
    have hle := hmatch.le_length
    obtain ⟨t, hplace, -, hfind⟩ := hmatch.exists_findUpTo hs hp
    obtain ⟨k, rfl⟩ : ∃ k', k = k' + 1 := ⟨k - 1, by omega⟩
    rw [hfind] at hsub
    exact ⟨k, t, by omega, hplace, List.subset_of_cons_subset hsub⟩

/-- One of the matches in a text ends at an index, and this is its first group. -/
def Finds (p : Pattern) (text : List Char) (j : Nat) (name : List Char) : Prop :=
  ∃ found ∈ p.findAll text, text.length - found.stop.left = j ∧ found.group 1 = name

/-- The scan finds the matches at the indices that it visits. -/
theorem finds_iff (hp : p.Proceeds) : p.Finds text j name ↔ ∃ i, Visits p text i ∧ FirstMatch p text i j name := by
  constructor
  · rintro ⟨found, hfound, rfl, rfl⟩
    obtain ⟨i, hi, hhead⟩ := Visits.exists_of_mem_findUpTo (s := .ofText text) rfl hp .start hfound
    obtain ⟨j, name, -, t, ht, hj, hplace, hgroup⟩ := hp text i (List.ne_nil_of_mem (List.mem_of_head? hhead))
    obtain rfl := Option.some.inj (ht.symm.trans hhead)
    have hindex : text.length - found.stop.left = j := by
      rw [show found.stop.left = text.length - j from congrArg Cursor.left hplace]
      omega
    refine ⟨i, hi, _, ht, Nat.sub_le .., hindex ▸ hplace, ?_⟩
    rw [Found.group, hgroup, Option.getD_some]
  · rintro ⟨i, hi, hmatch⟩
    obtain ⟨k, s, hk, hs, hsub⟩ := hi.exists_findUpTo hp
    obtain ⟨t, hplace, hgroup, hfind⟩ := hmatch.exists_findUpTo hs hp
    have hle := hmatch.le_length
    obtain ⟨k, rfl⟩ : ∃ k', k = k' + 1 := ⟨k - 1, by omega⟩
    rw [hfind] at hsub
    refine ⟨⟨s, t⟩, hsub List.mem_cons_self, ?_, ?_⟩
    · show text.length - t.left = j
      rw [show t.left = text.length - j from congrArg Cursor.left hplace]
      omega
    · show (t.group? 1).getD [] = name
      rw [hgroup, Option.getD_some]

/-! ## What follows a match -/

/-- Of two matches the one that begins further on ends further on, and what follows a match does not matter beyond the
first character. -/
structure Settled (p : Pattern) : Prop where
  proceeds : p.Proceeds
  mono : ∀ {text i j name i' j' name'}, FirstMatch p text i j name → FirstMatch p text i' j' name' → i ≤ i' → j ≤ j'
  append : ∀ {a i j name} back back', j < a.length → FirstMatch p (a ++ back) i j name → FirstMatch p (a ++ back') i j name

namespace Settled

variable (hp : p.Settled)

include hp

/-- Up to a match, the scan visits the same indices whatever follows the match. -/
theorem visits_append (hj : j < a.length) (hmatch : FirstMatch p (a ++ back) i j name) (back' : List Char)
    (hn : Visits p (a ++ back) n) (hni : n ≤ i) : Visits p (a ++ back') n := by
  have hij := hp.proceeds.lt hmatch
  induction hn with
  | start => exact .start
  | @next n hn hlt hways ih =>
    refine (ih (by omega)).next ?_ ?_
    · rw [List.length_append]
      omega
    · -- a match would end no further on than the given one, so it would be one in the other text too
      by_contra hne
      obtain ⟨m, other, -, hother⟩ := hp.proceeds _ n hne
      have hm := hp.mono hother (hp.append back back' hj hmatch) (by omega)
      exact (hp.append back' back (by omega) hother).ways_ne_nil hways
  | @jump n m other hn hother ih =>
    have hlt := hp.proceeds.lt hother
    exact (ih (by omega)).jump (hp.append back back' (by omega) hother)

/-- The matches that are found do not depend on what follows them. -/
theorem finds_append (hj : j < a.length) (back' : List Char) (h : p.Finds (a ++ back) j name) :
    p.Finds (a ++ back') j name := by
  obtain ⟨i, hi, hmatch⟩ := (finds_iff hp.proceeds).mp h
  refine (finds_iff hp.proceeds).mpr ⟨i, ?_, hp.append back back' hj hmatch⟩
  exact hp.visits_append hj hmatch back' hi (Nat.le_refl i)

end Settled

end Pattern

end RiskGauge
