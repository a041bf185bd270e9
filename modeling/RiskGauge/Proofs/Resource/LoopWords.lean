import RiskGauge.Proofs.Pattern.Words
import RiskGauge.Proofs.Resource.Counters

/-!
# Keywords of loops

The depth of loops is told by the keywords of loops: `loopWords` lists where they stand in a source as whole words.

* `depth_three_iff`: the depth is three if three of them follow each other closely;
* `length_loopWords_le_branchWord`, `length_loopWords_le_loopToken`: each of them is counted as a branch and as a loop;
* `loops_consistent`: so the depth is never greater than the number of loops, and a depth of two or more shows in the
  number of branches.
-/

namespace RiskGauge

namespace Complexity

open Pattern
open Cursor (ofIndex)

/-- The keywords of loops. -/
def loopKeywords : List String :=
  ["for", "while"]

/-- A stretch of a text: the indices of its first character and behind its last one. -/
structure Stretch where
  start : Nat
  stop : Nat
deriving DecidableEq, Repr

/-- The keyword of a loop that stands at an index of a text. -/
def loopWordAt? (text : List Char) (n : Nat) : Option Stretch :=
  (loopKeywords.find? fun w => Text.standsAt w.toList text n).map fun w => ⟨n, n + w.toList.length⟩

/-- The keywords of loops in a text, from left to right. -/
def loopWords (text : List Char) : List Stretch :=
  (List.range text.length).filterMap (loopWordAt? text)

variable {text : List Char} {a b c : Stretch} {n : Nat}

/-! ## Where the keywords stand -/

theorem isOneWord_loopKeywords : ∀ w ∈ loopKeywords, Text.isOneWord w.toList = true := by decide

theorem loopWordAt?_eq_some : loopWordAt? text n = some a ↔
    a.start = n ∧ ∃ w ∈ loopKeywords, Text.standsAt w.toList text n = true ∧ a.stop = n + w.toList.length := by
  rw [loopWordAt?, Option.map_eq_some_iff]
  constructor
  · rintro ⟨w, hfind, rfl⟩
    exact ⟨rfl, w, List.mem_of_find?_eq_some hfind, by simpa using List.find?_some hfind, rfl⟩
  · rintro ⟨hstart, w, hw, hstands, hstop⟩
    have hsome : (loopKeywords.find? fun w => Text.standsAt w.toList text n).isSome = true :=
      List.find?_isSome.mpr ⟨w, hw, hstands⟩
    obtain ⟨v, hfind⟩ := Option.isSome_iff_exists.mp hsome
    have hv := isOneWord_loopKeywords v (List.mem_of_find?_eq_some hfind)
    have hvstands : Text.standsAt v.toList text n = true := by simpa using List.find?_some hfind
    have heq : v.toList = w.toList := Text.eq_of_standsAt hv (isOneWord_loopKeywords w hw) hvstands hstands
    obtain ⟨start, stop⟩ := a
    obtain rfl : start = n := hstart
    obtain rfl : stop = start + w.toList.length := hstop
    exact ⟨v, hfind, by rw [heq]⟩

theorem mem_loopWords : a ∈ loopWords text ↔
    ∃ w ∈ loopKeywords, Text.standsAt w.toList text a.start = true ∧ a.stop = a.start + w.toList.length := by
  rw [loopWords, List.mem_filterMap]
  simp only [List.mem_range, loopWordAt?_eq_some]
  constructor
  · rintro ⟨n, -, rfl, hword⟩
    exact hword
  · rintro ⟨w, hw, hstands, hstop⟩
    have hle := Text.length_le_of_word (isOneWord_loopKeywords w hw) (Text.standsAt_iff.mp hstands).1
    exact ⟨a.start, by omega, rfl, w, hw, hstands, hstop⟩

example : loopWords "before forEach for(while".toList = [⟨15, 18⟩, ⟨19, 24⟩] := by decide +kernel

theorem start_lt_stop (h : a ∈ loopWords text) : a.start < a.stop ∧ a.stop ≤ text.length := by
  obtain ⟨w, hw, hstands, hstop⟩ := mem_loopWords.mp h
  have hle := Text.length_le_of_word (isOneWord_loopKeywords w hw) (Text.standsAt_iff.mp hstands).1
  omega

/-- Whole words do not overlap. -/
theorem stop_le_start (ha : a ∈ loopWords text) (hb : b ∈ loopWords text) (h : a.start < b.start) :
    a.stop ≤ b.start := by
  obtain ⟨v, hv, hvstands, hvstop⟩ := mem_loopWords.mp ha
  obtain ⟨w, hw, hwstands, -⟩ := mem_loopWords.mp hb
  by_contra hlt
  have hinside := Text.any_getLast?_of_word (isOneWord_loopKeywords v hv) (Text.standsAt_iff.mp hvstands).1 h (by omega)
  rw [(Text.standsAt_iff.mp hwstands).2.1] at hinside
  cases hinside

theorem pairwise_loopWords (text : List Char) : (loopWords text).Pairwise fun a b => a.stop ≤ b.start := by
  have hstarts : (loopWords text).Pairwise fun a b => a.start < b.start := by
    refine List.pairwise_lt_range.filterMap _ ?_
    intro m n hmn a ha b hb
    rw [(loopWordAt?_eq_some.mp ha).1, (loopWordAt?_eq_some.mp hb).1]
    exact hmn
  exact hstarts.imp_of_mem stop_le_start

/-! ## Three in a row -/

theorem mem_ways_loopWord {t : Cursor} : t ∈ (all [edge, loopWord, edge]).ways (ofIndex text n) ↔
    ∃ a ∈ loopWords text, a.start = n ∧ t = ofIndex text a.stop := by
  have hword : loopWord = any (loopKeywords.map exactly) := rfl
  rw [hword, mem_ways_wholeWord isOneWord_loopKeywords]
  constructor
  · rintro ⟨w, hw, hstands, rfl⟩
    exact ⟨⟨n, n + w.toList.length⟩, mem_loopWords.mpr ⟨w, hw, hstands, rfl⟩, rfl, rfl⟩
  · rintro ⟨a, ha, rfl, rfl⟩
    obtain ⟨w, hw, hstands, hstop⟩ := mem_loopWords.mp ha
    exact ⟨w, hw, hstands, by rw [hstop]⟩

theorem mem_ways_shortStretch {t : Cursor} (hn : n ≤ text.length) : t ∈ shortStretch.ways (ofIndex text n) ↔
    ∃ m, n ≤ m ∧ m ≤ n + 300 ∧ m ≤ text.length ∧ t = ofIndex text m := by
  rw [shortStretch, mem_ways_span, Cursor.spanLength_true_some, Cursor.ofIndex_after, List.length_drop]
  constructor
  · rintro ⟨k, -, hk, rfl⟩
    exact ⟨n + k, by omega, by omega, by omega, Cursor.ofIndex_advance ..⟩
  · rintro ⟨m, hnm, hm, hle, rfl⟩
    obtain ⟨k, rfl⟩ : ∃ k, m = n + k := ⟨m - n, by omega⟩
    exact ⟨k, Nat.zero_le k, by omega, (Cursor.ofIndex_advance ..).symm⟩

/-- One keyword follows another with few characters between them. -/
def Follows (a b : Stretch) : Prop :=
  a.stop ≤ b.start ∧ b.start ≤ a.stop + 300

theorem occursIn_tripleLoop : tripleLoop.occursIn text = true ↔
    ∃ a ∈ loopWords text, ∃ b ∈ loopWords text, ∃ c ∈ loopWords text, Follows a b ∧ Follows b c := by
  have htriple : tripleLoop = all [all [edge, loopWord, edge], shortStretch, all [edge, loopWord, edge], shortStretch,
    all [edge, loopWord, edge]] := rfl
  rw [occursIn_iff, htriple]
  constructor
  · rintro ⟨n, -, hways⟩
    obtain ⟨t, ht⟩ := List.exists_mem_of_ne_nil _ hways
    obtain ⟨u, hu, ht⟩ := mem_ways_all_cons.mp ht
    obtain ⟨a, ha, -, rfl⟩ := mem_ways_loopWord.mp hu
    obtain ⟨u, hu, ht⟩ := mem_ways_all_cons.mp ht
    obtain ⟨i, hai, hi, -, rfl⟩ := (mem_ways_shortStretch (start_lt_stop ha).2).mp hu
    obtain ⟨u, hu, ht⟩ := mem_ways_all_cons.mp ht
    obtain ⟨b, hb, rfl, rfl⟩ := mem_ways_loopWord.mp hu
    obtain ⟨u, hu, ht⟩ := mem_ways_all_cons.mp ht
    obtain ⟨j, hbj, hj, -, rfl⟩ := (mem_ways_shortStretch (start_lt_stop hb).2).mp hu
    obtain ⟨u, hu, -⟩ := mem_ways_all_cons.mp ht
    obtain ⟨c, hc, rfl, -⟩ := mem_ways_loopWord.mp hu
    exact ⟨a, ha, b, hb, c, hc, ⟨hai, hi⟩, hbj, hj⟩
  · rintro ⟨a, ha, b, hb, c, hc, ⟨hab, hab'⟩, hbc, hbc'⟩
    have hasize := start_lt_stop ha
    have hbsize := start_lt_stop hb
    have hcsize := start_lt_stop hc
    refine ⟨a.start, by omega, List.ne_nil_of_mem (a := ofIndex text c.stop) ?_⟩
    refine mem_ways_all_cons.mpr ⟨_, mem_ways_loopWord.mpr ⟨a, ha, rfl, rfl⟩, ?_⟩
    refine mem_ways_all_cons.mpr ⟨_, (mem_ways_shortStretch hasize.2).mpr ⟨b.start, hab, hab', by omega, rfl⟩, ?_⟩
    refine mem_ways_all_cons.mpr ⟨_, mem_ways_loopWord.mpr ⟨b, hb, rfl, rfl⟩, ?_⟩
    refine mem_ways_all_cons.mpr ⟨_, (mem_ways_shortStretch hbsize.2).mpr ⟨c.start, hbc, hbc', by omega, rfl⟩, ?_⟩
    exact mem_ways_all_cons.mpr ⟨_, mem_ways_loopWord.mpr ⟨c, hc, rfl, rfl⟩, mem_ways_all_nil.mpr rfl⟩

/-- Of the keywords before another one, the last is the nearest. -/
theorem exists_nearest_before {front back : List Stretch} (h : loopWords text = front ++ b :: back)
    (ha : a ∈ loopWords text) (hab : Follows a b) :
    ∃ front' a', front = front' ++ [a'] ∧ b.start ≤ a'.stop + 300 := by
  obtain ⟨hle, hnear⟩ := hab
  have hb : b ∈ loopWords text := by simp [h]
  have hasize := start_lt_stop ha
  have hbsize := start_lt_stop hb
  obtain ⟨hfront, hback, -⟩ := List.pairwise_append.mp (h ▸ pairwise_loopWords text)
  have hmem : a ∈ front := by
    rw [h, List.mem_append, List.mem_cons] at ha
    obtain ha | rfl | ha := ha
    · exact ha
    · omega
    · have hbehind := (List.pairwise_cons.mp hback).1 a ha
      omega
  obtain rfl | ⟨front', a', rfl⟩ := List.eq_nil_or_concat' front
  · cases hmem
  refine ⟨front', a', rfl, ?_⟩
  obtain hmem | hmem := List.mem_append.mp hmem
  · have hbefore := (List.pairwise_append.mp hfront).2.2 a hmem a' (List.mem_singleton_self a')
    have ha' : a' ∈ loopWords text := by simp [h]
    have hsize := start_lt_stop ha'
    omega
  · rwa [← List.mem_singleton.mp hmem]

/-- Of the keywords behind another one, the first is the nearest. -/
theorem exists_nearest_behind {front back : List Stretch} (h : loopWords text = front ++ b :: back)
    (hc : c ∈ loopWords text) (hbc : Follows b c) : ∃ c' back', back = c' :: back' ∧ c'.start ≤ b.stop + 300 := by
  obtain ⟨hle, hnear⟩ := hbc
  have hb : b ∈ loopWords text := by simp [h]
  have hbsize := start_lt_stop hb
  have hcsize := start_lt_stop hc
  obtain ⟨-, hback, hacross⟩ := List.pairwise_append.mp (h ▸ pairwise_loopWords text)
  have hmem : c ∈ back := by
    rw [h, List.mem_append, List.mem_cons] at hc
    obtain hc | rfl | hc := hc
    · have hbefore := hacross c hc b List.mem_cons_self
      omega
    · omega
    · exact hc
  obtain ⟨c', back', rfl⟩ := List.exists_cons_of_ne_nil (List.ne_nil_of_mem hmem)
  refine ⟨c', back', rfl, ?_⟩
  obtain rfl | hmem := List.mem_cons.mp hmem
  · exact hnear
  · have hbehind := (List.pairwise_cons.mp (List.pairwise_cons.mp hback).2).1 c hmem
    have hc' : c' ∈ loopWords text := by simp [h]
    have hsize := start_lt_stop hc'
    omega

theorem occursIn_tripleLoop_iff : tripleLoop.occursIn text = true ↔
    ∃ a b c, [a, b, c] <:+: loopWords text ∧ b.start ≤ a.stop + 300 ∧ c.start ≤ b.stop + 300 := by
  rw [occursIn_tripleLoop]
  constructor
  · rintro ⟨a, ha, b, hb, c, hc, hab, hbc⟩
    obtain ⟨front, back, hsplit⟩ := List.append_of_mem hb
    obtain ⟨front, a', rfl, ha'⟩ := exists_nearest_before hsplit ha hab
    obtain ⟨c', back, rfl, hc'⟩ := exists_nearest_behind hsplit hc hbc
    exact ⟨a', b, c', ⟨front, back, by rw [hsplit]; simp⟩, ha', hc'⟩
  · rintro ⟨a, b, c, hinside, hab, hbc⟩
    have hpairs := (pairwise_loopWords text).sublist hinside.sublist
    simp only [List.pairwise_cons, List.mem_cons, List.not_mem_nil] at hpairs
    have hmem := hinside.subset
    exact ⟨a, hmem (by simp), b, hmem (by simp), c, hmem (by simp), ⟨hpairs.1 b (by simp), hab⟩,
      hpairs.2.1 c (by simp), hbc⟩

/-! ## A loop in the body of a loop -/

/-- The head of a loop, with blanks before the parenthesis or without, has a keyword at its start. -/
theorem exists_loopWord_of_head {qs : List Pattern} {t : Cursor}
    (h : t ∈ (all (edge :: loopWord :: blanks :: char '(' :: qs)).ways (ofIndex text n)) :
    ∃ a ∈ loopWords text, a.start = n ∧ ∃ m, a.stop ≤ m ∧ t ∈ (all qs).ways (ofIndex text m) := by
  obtain ⟨w, hw, hhere, hbefore, ht⟩ := (mem_ways_edge_words isOneWord_loopKeywords).mp h
  obtain ⟨u, hu, ht⟩ := mem_ways_all_cons.mp ht
  obtain ⟨k, -, hk, rfl⟩ := mem_ways_span.mp hu
  obtain ⟨v, hv, ht⟩ := mem_ways_all_cons.mp ht
  obtain ⟨⟨d, hd, hparen⟩, rfl⟩ := mem_ways_one.mp hv
  obtain rfl : d = '(' := by simpa using hparen
  rw [Cursor.ofIndex_after] at hk
  rw [Cursor.advance_after, Cursor.ofIndex_after] at hd
  have hbehind : (text.drop (n + w.toList.length)).head?.any Text.isWord = false := by
    cases hdrop : text.drop (n + w.toList.length) with
    | nil => rfl
    | cons e rest =>
      rw [List.head?_cons, Option.any_some]
      by_cases hblank : Text.isBlank e = true
      · exact Text.isWord_of_isBlank hblank
      · obtain rfl : k = 0 := by simpa [hdrop, Cursor.spanLength, hblank] using hk
        obtain rfl : e = '(' := by simpa [hdrop] using hd
        decide
  refine ⟨⟨n, n + w.toList.length⟩, mem_loopWords.mpr ⟨w, hw, Text.standsAt_iff.mpr ⟨hhere, hbefore, hbehind⟩, rfl⟩,
    rfl, n + w.toList.length + k + 1, by simp only; omega, ?_⟩
  rwa [Cursor.ofIndex_advance, Cursor.ofIndex_advance] at ht

theorem two_le_length_of_nestedLoop (h : nestedLoop.occursIn text = true) : 2 ≤ (loopWords text).length := by
  have hnested : nestedLoop = all (edge :: loopWord :: blanks :: char '(' ::
    ([many (· != ')'), char ')', blanks, char '\x7b', many (fun c => c != '\x7b' && c != '\x7d')] ++
      [edge, loopWord, blanks, char '('])) := rfl
  obtain ⟨n, -, hways⟩ := occursIn_iff.mp h
  obtain ⟨t, ht⟩ := List.exists_mem_of_ne_nil _ hways
  obtain ⟨a, ha, rfl, m, hm, ht⟩ := exists_loopWord_of_head (hnested ▸ ht)
  obtain ⟨u, hu, ht⟩ := mem_ways_all_append.mp ht
  obtain ⟨k, -, -, rfl⟩ := exists_advance (by decide) hu
  rw [Cursor.ofIndex_advance] at ht
  obtain ⟨b, hb, hstart, -⟩ := exists_loopWord_of_head ht
  have hasize := start_lt_stop ha
  have hne : a ≠ b := by
    rintro rfl
    omega
  have hsub : [a, b].Subperm (loopWords text) := List.subperm_of_subset (by simp [hne]) (by simp [ha, hb])
  exact hsub.length_le

/-! ## The keywords among the counters -/

theorem length_loopWords_le {p : Pattern} (hp : p.Consumes) (hstarts : p.StartsWords)
    (h : ∀ a ∈ loopWords text, p.ways (ofIndex text a.start) ≠ []) : (loopWords text).length ≤ p.count text := by
  rw [hp.count_eq_countP (hstarts.apart text), loopWords, List.length_filterMap_eq_countP]
  refine List.countP_mono_left fun n hn hsome => ?_
  obtain ⟨a, ha⟩ := Option.isSome_iff_exists.mp hsome
  have hmem : a ∈ loopWords text := List.mem_filterMap.mpr ⟨n, hn, ha⟩
  have hways := h a hmem
  rw [(loopWordAt?_eq_some.mp ha).1] at hways
  simpa using hways

/-- At the keyword of a loop, every choice of whole words matches that has the keywords of loops among them. -/
theorem ways_wholeWord_ne_nil {ws : List String} (hws : ∀ w ∈ ws, Text.isOneWord w.toList = true)
    (hsub : loopKeywords ⊆ ws) (ha : a ∈ loopWords text) :
    (all [edge, any (ws.map exactly), edge]).ways (ofIndex text a.start) ≠ [] := by
  obtain ⟨w, hw, hstands, -⟩ := mem_loopWords.mp ha
  exact List.ne_nil_of_mem ((mem_ways_wholeWord hws).mpr ⟨w, hsub hw, hstands, rfl⟩)

theorem edge_stays {s t : Cursor} (h : t ∈ edge.ways s) : t = s ∨ t = s.advance 1 :=
  .inl (mem_ways_edge.mp h).2

theorem length_loopWords_le_branchWord (text : List Char) : (loopWords text).length ≤ branchWord.count text := by
  have hws : ∀ w ∈ ["if", "case", "catch", "for", "while", "switch", "try"], Text.isOneWord w.toList = true := by decide
  refine length_loopWords_le consumes_branchWord (startsWords_of_words hws edge_stays) fun a ha => ?_
  exact ways_wholeWord_ne_nil hws (by decide) ha

theorem length_loopWords_le_loopToken (text : List Char) : (loopWords text).length ≤ loopToken.count text := by
  have hws : ∀ w ∈ ["for", "while", "forEach"], Text.isOneWord w.toList = true := by decide
  have hcalls : ∀ w ∈ ["map", "reduce"], Text.isOneWord w.toList = true := by decide
  have hstarts : loopToken.StartsWords :=
    (startsWords_of_words hws edge_stays).either (startsWords_of_words hcalls fun h => .inr (mem_ways_one.mp h).2)
  refine length_loopWords_le consumes_loopToken hstarts fun a ha => ?_
  obtain ⟨t, ht⟩ := List.exists_mem_of_ne_nil _ (ways_wholeWord_ne_nil hws (by decide) ha)
  exact List.ne_nil_of_mem (mem_ways_either.mpr (.inl ht))

/-! ## The depth of loops -/

/-- The depth is three exactly if three keywords of loops follow each other with at most three hundred characters from
one to the next. -/
theorem depth_three_iff (text : List Char) : (scan text).loopDepth = 3 ↔
    ∃ a b c, [a, b, c] <:+: loopWords text ∧ b.start ≤ a.stop + 300 ∧ c.start ≤ b.stop + 300 := by
  rw [loopDepth_scan, ← occursIn_tripleLoop_iff, loopDepth]
  split_ifs <;> simp_all

theorem depth_le_length (h : 2 ≤ loopDepth text) : loopDepth text ≤ (loopWords text).length := by
  unfold loopDepth at h ⊢
  split_ifs at h ⊢ with htriple hnested
  · obtain ⟨a, b, c, hinside, -⟩ := occursIn_tripleLoop_iff.mp htriple
    exact hinside.length_le
  · exact two_le_length_of_nestedLoop hnested
  all_goals omega

/-- The depth of loops agrees with the number of loops, and shows in the number of branches. -/
theorem loops_consistent (text : List Char) :
    ((scan text).loopDepth = 0 ↔ (scan text).loopCount = 0) ∧ (scan text).loopDepth ≤ (scan text).loopCount ∧
      (2 ≤ (scan text).loopDepth → 1 + (scan text).loopDepth ≤ (scan text).branching) := by
  rw [loopDepth_scan, loopCount_scan, branching_scan]
  have hloops := length_loopWords_le_loopToken text
  have hbranches := length_loopWords_le_branchWord text
  by_cases hdeep : 2 ≤ loopDepth text
  · have hdepth := depth_le_length hdeep
    omega
  · have hflat : loopDepth text = if 0 < loopToken.count text then 1 else 0 := by
      unfold loopDepth at hdeep ⊢
      split_ifs at hdeep ⊢ <;> omega
    split_ifs at hflat <;> omega

end Complexity

end RiskGauge
