import RiskGauge.Proofs.Pattern.InLine

/-!
# Patterns of words

A word stands at an index of a text if its characters do, with no word character before or behind them
(`Text.standsAt`). There are few blanks, so what is said of them is checked one by one (`Text.of_isBlank`).

* `mem_ways_wholeWord`: a choice of words between two edges matches where one of the words stands;
* `StartsWords`: the matches of such a pattern begin where words do, and no word begins inside of them. They do not
  overlap (`StartsWords.apart`), so they are counted by the words.
-/

namespace RiskGauge

namespace Text

/-- The code points of the blanks. -/
def blankCodes : List Nat :=
  List.range' 9 5 ++ List.range' 28 5 ++ [0x85, 0xA0, 0x1680] ++ List.range' 0x2000 11 ++
    [0x2028, 0x2029, 0x202F, 0x205F, 0x3000]

/-- What holds of each of the blanks one by one holds of all blanks. -/
theorem of_isBlank {p : Char → Prop} (h : ∀ n ∈ blankCodes, p (Char.ofNat n)) {c : Char} (hc : isBlank c = true) :
    p c := by
  have hcode : c.toNat ∈ blankCodes := by
    simp only [isBlank] at hc
    simp only [blankCodes, List.mem_append, List.mem_range'_1, List.mem_cons, List.not_mem_nil]
    split at hc <;> simp only [Bool.or_eq_true, Bool.and_eq_true, decide_eq_true_eq, beq_iff_eq] at hc <;> omega
  simpa using h _ hcode

/-- A blank is no word character. -/
theorem isWord_of_isBlank {c : Char} (h : isBlank c = true) : isWord c = false :=
  of_isBlank (p := fun c => isWord c = false) (by decide +kernel) h

/-- Word characters, and at least one. -/
def isOneWord (w : List Char) : Bool :=
  !w.isEmpty && w.all isWord

/-- A text stands at an index of another one, with no word character before it or behind it. -/
def standsAt (w text : List Char) (n : Nat) : Bool :=
  w.isPrefixOf (text.drop n) && !(text.take n).getLast?.any isWord && !(text.drop (n + w.length)).head?.any isWord

/-- A word begins at an index of a text. -/
def wordBegins (text : List Char) (n : Nat) : Bool :=
  !(text.take n).getLast?.any isWord && (text.drop n).head?.any isWord

variable {v w text : List Char} {n i : Nat}

theorem standsAt_iff : standsAt w text n = true ↔
    w <+: text.drop n ∧ (text.take n).getLast?.any isWord = false ∧
      (text.drop (n + w.length)).head?.any isWord = false := by
  simp only [standsAt, Bool.and_eq_true, Bool.not_eq_true', List.isPrefixOf_iff_prefix, and_assoc]

theorem isOneWord_iff : isOneWord w = true ↔ w ≠ [] ∧ ∀ c ∈ w, isWord c = true := by
  simp [isOneWord]

theorem length_le_of_word (hw : isOneWord w = true) (h : w <+: text.drop n) :
    0 < w.length ∧ n + w.length ≤ text.length := by
  have hpos := List.length_pos_iff.mpr (isOneWord_iff.mp hw).1
  have hle := h.length_le
  rw [List.length_drop] at hle
  omega

/-- The first character of a word is a word character. -/
theorem any_head?_of_word (hw : isOneWord w = true) (h : w <+: text.drop n) :
    (text.drop n).head?.any isWord = true := by
  obtain ⟨hne, hall⟩ := isOneWord_iff.mp hw
  obtain ⟨rest, hrest⟩ := h
  obtain ⟨c, cs, rfl⟩ := List.exists_cons_of_ne_nil hne
  rw [← hrest, List.cons_append, List.head?_cons, Option.any_some]
  exact hall c List.mem_cons_self

/-- Inside of a word and at its end, there is a word character right before the place. -/
theorem any_getLast?_of_word (hw : isOneWord w = true) (h : w <+: text.drop n) (hi : n < i) (hle : i ≤ n + w.length) :
    (text.take i).getLast?.any isWord = true := by
  obtain ⟨k, rfl⟩ : ∃ k, i = n + k := ⟨i - n, by omega⟩
  obtain ⟨rest, hrest⟩ := h
  have htake : text.take (n + k) = text.take n ++ w.take k := by
    rw [List.take_add, ← hrest, List.take_append_of_le_length (by omega)]
  have hne : w.take k ≠ [] := by
    rw [ne_eq, List.take_eq_nil_iff, not_or]
    exact ⟨by omega, (isOneWord_iff.mp hw).1⟩
  rw [htake, List.getLast?_append, List.getLast?_eq_some_getLast hne, Option.some_or, Option.any_some]
  exact (isOneWord_iff.mp hw).2 _ (List.mem_of_mem_take (List.getLast_mem hne))

theorem eq_of_standsAt_longer (hw : isOneWord w = true) (hv : standsAt v text n = true)
    (hstands : standsAt w text n = true) (h : v <+: w) : v = w := by
  obtain ⟨rest, rfl⟩ := h
  cases rest with
  | nil => rw [List.append_nil]
  | cons c rest =>
    obtain ⟨⟨more, hmore⟩, -, -⟩ := standsAt_iff.mp hstands
    obtain ⟨-, -, hbehind⟩ := standsAt_iff.mp hv
    have hdrop : text.drop (n + v.length) = c :: (rest ++ more) := by
      rw [← List.drop_drop, ← hmore, List.append_assoc, List.drop_left, List.cons_append]
    have hc : isWord c = true := (isOneWord_iff.mp hw).2 c (by simp)
    rw [hdrop, List.head?_cons, Option.any_some, hc] at hbehind
    cases hbehind

/-- Only one word stands at an index. -/
theorem eq_of_standsAt (hv : isOneWord v = true) (hw : isOneWord w = true) (h : standsAt v text n = true)
    (h' : standsAt w text n = true) : v = w := by
  obtain hle | hle := List.prefix_or_prefix_of_prefix (standsAt_iff.mp h).1 (standsAt_iff.mp h').1
  · exact eq_of_standsAt_longer hw h h' hle
  · exact (eq_of_standsAt_longer hv h' h hle).symm

theorem wordBegins_of_word (hw : isOneWord w = true) (h : w <+: text.drop n)
    (hbefore : (text.take n).getLast?.any isWord = false) : wordBegins text n = true := by
  rw [wordBegins, hbefore, any_head?_of_word hw h]
  rfl

theorem wordBegins_inside (hw : isOneWord w = true) (h : w <+: text.drop n) (hi : n < i) (hle : i ≤ n + w.length) :
    wordBegins text i = false := by
  rw [wordBegins, any_getLast?_of_word hw h hi hle]
  rfl

end Text

namespace Pattern

open Cursor (ofIndex)

variable {p q : Pattern} {ws : List String} {text : List Char} {t : Cursor} {n : Nat}

theorem atWordEdge_ofIndex (text : List Char) (n : Nat) : (ofIndex text n).atWordEdge Text.isWord true =
    ((text.take n).getLast?.any Text.isWord != (text.drop n).head?.any Text.isWord) := by
  rw [Cursor.atWordEdge_true, Cursor.ofIndex_before, Cursor.ofIndex_after, List.head?_reverse]

/-- At a word there is an edge if no word character stands before it. -/
theorem atWordEdge_of_word {w : List Char} (hw : Text.isOneWord w = true) (h : w <+: text.drop n) :
    (ofIndex text n).atWordEdge Text.isWord true = true ↔ (text.take n).getLast?.any Text.isWord = false := by
  rw [atWordEdge_ofIndex, Text.any_head?_of_word hw h]
  simp

/-- A choice of words behind an edge matches one of the words, where a word begins. -/
theorem mem_ways_edge_words (hws : ∀ w ∈ ws, Text.isOneWord w.toList = true) {qs : List Pattern} :
    t ∈ (all (edge :: any (ws.map exactly) :: qs)).ways (ofIndex text n) ↔
      ∃ w ∈ ws, w.toList <+: text.drop n ∧ (text.take n).getLast?.any Text.isWord = false ∧
        t ∈ (all qs).ways (ofIndex text (n + w.toList.length)) := by
  simp only [mem_ways_all_cons, mem_ways_edge, mem_ways_words]
  constructor
  · rintro ⟨u, ⟨hedge, rfl⟩, v, ⟨w, hw, hhere, rfl⟩, ht⟩
    rw [Cursor.ofIndex_after] at hhere
    refine ⟨w, hw, hhere, (atWordEdge_of_word (hws w hw) hhere).mp hedge, ?_⟩
    rwa [Cursor.ofIndex_advance] at ht
  · rintro ⟨w, hw, hhere, hbefore, ht⟩
    refine ⟨_, ⟨(atWordEdge_of_word (hws w hw) hhere).mpr hbefore, rfl⟩, _, ⟨w, hw, hhere, rfl⟩, ?_⟩
    rwa [Cursor.ofIndex_advance]

/-- A choice of words between two edges matches where one of the words stands. -/
theorem mem_ways_wholeWord (hws : ∀ w ∈ ws, Text.isOneWord w.toList = true) :
    t ∈ (all [edge, any (ws.map exactly), edge]).ways (ofIndex text n) ↔
      ∃ w ∈ ws, Text.standsAt w.toList text n = true ∧ t = ofIndex text (n + w.toList.length) := by
  rw [mem_ways_edge_words hws]
  refine exists_congr fun w => and_congr_right fun hw => ?_
  rw [Text.standsAt_iff, and_assoc, and_assoc]
  refine and_congr_right fun hhere => and_congr_right fun _ => ?_
  obtain ⟨hpos, -⟩ := Text.length_le_of_word (hws w hw) hhere
  have hlast := Text.any_getLast?_of_word (hws w hw) hhere (Nat.lt_add_of_pos_right hpos) (Nat.le_refl _)
  simp only [mem_ways_all_cons, mem_ways_edge, mem_ways_all_nil, atWordEdge_ofIndex, hlast]
  simp

/-! ## Matches that begin with a word -/

/-- Every match begins where a word does, and no word begins inside of it. -/
structure StartsWords (p : Pattern) : Prop where
  begins : ∀ {text : List Char} {n : Nat} {t : Cursor}, t ∈ p.ways (ofIndex text n) → Text.wordBegins text n = true
  inside : ∀ {text : List Char} {n m : Nat}, m ≤ text.length → ofIndex text m ∈ p.ways (ofIndex text n) →
    ∀ i, n < i → i < m → Text.wordBegins text i = false

theorem StartsWords.apart (h : p.StartsWords) (text : List Char) : p.Apart text := by
  intro n m hm hmem i hni him
  refine List.eq_nil_iff_forall_not_mem.mpr fun t ht => ?_
  have hbegins := h.begins ht
  rw [h.inside hm hmem i hni him] at hbegins
  cases hbegins

theorem StartsWords.either (hp : p.StartsWords) (hq : q.StartsWords) : (Pattern.either p q).StartsWords where
  begins h := (mem_ways_either.mp h).elim hp.begins hq.begins
  inside hm h := (mem_ways_either.mp h).elim (hp.inside hm) (hq.inside hm)

/-- A choice of words behind an edge, and at most one more character. -/
theorem startsWords_of_words (hws : ∀ w ∈ ws, Text.isOneWord w.toList = true)
    (hq : ∀ {s t}, t ∈ q.ways s → t = s ∨ t = s.advance 1) : (all [edge, any (ws.map exactly), q]).StartsWords where
  begins h := by
    obtain ⟨w, hw, hhere, hbefore, -⟩ := (mem_ways_edge_words hws).mp h
    exact Text.wordBegins_of_word (hws w hw) hhere hbefore
  inside := by
    intro text n m hm h i hni him
    obtain ⟨w, hw, hhere, -, ht⟩ := (mem_ways_edge_words hws).mp h
    have hlength := Text.length_le_of_word (hws w hw) hhere
    have hend : m ≤ n + w.toList.length + 1 := by
      obtain ⟨u, hu, rfl⟩ : ∃ u ∈ q.ways (ofIndex text (n + w.toList.length)), ofIndex text m = u := by
        simpa [mem_ways_all_cons] using ht
      obtain hu | hu := hq hu
      · have hleft := congrArg Cursor.left hu
        simp only [Cursor.ofIndex_left] at hleft
        omega
      · have hleft := congrArg Cursor.left hu
        simp only [Cursor.ofIndex_left, Cursor.advance_left] at hleft
        omega
    exact Text.wordBegins_inside (hws w hw) hhere hni (by omega)

end Pattern

end RiskGauge
