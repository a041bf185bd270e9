import RiskGauge.Proofs.Pattern.Scan

/-!
# Patterns that stay in a line

A pattern stays in a line if it takes no line feed and looks at nothing but the edges of words (`Pattern.inLine`). To
such a pattern a line feed is what the end of the text is:

* `ways_within`: in a longer text it matches as in a part of it that lies between line feeds;
* `count_feed`: so in two texts with a line feed between them it matches as often as in both of them together.
-/

namespace RiskGauge

namespace Cursor

/-- The place in a longer text, with `front` (last character first) before the text and `back` behind it. -/
def within (front back : List Char) (s : Cursor) : Cursor :=
  { s with before := s.before ++ front, after := s.after ++ back, left := s.left + back.length }

/-- A text that is empty or begins with a line feed. -/
def Broken (text : List Char) : Prop :=
  ∀ c ∈ text.head?, c = '\n'

theorem broken_nil : Broken [] := by simp [Broken]

theorem broken_feed (rest : List Char) : Broken ('\n' :: rest) := by simp [Broken]

variable {front back : List Char} {s : Cursor}

theorem ofIndex_within (front back text : List Char) {n : Nat} (hn : n ≤ text.length) :
    (ofIndex text n).within front back = ofIndex (front.reverse ++ (text ++ back)) (front.length + n) := by
  have hlength : front.reverse.length = front.length := List.length_reverse
  have hbefore : (text.take n).reverse ++ front =
      ((front.reverse ++ (text ++ back)).take (front.length + n)).reverse := by
    rw [← hlength, List.take_length_add_append, List.take_append_of_le_length hn, List.reverse_append,
      List.reverse_reverse]
  have hafter : text.drop n ++ back = (front.reverse ++ (text ++ back)).drop (front.length + n) := by
    rw [← hlength, List.drop_length_add_append, List.drop_append_of_le_length hn]
  have hleft : text.length - n + back.length = (front.reverse ++ (text ++ back)).length - (front.length + n) := by
    simp only [List.length_append, List.length_reverse]
    omega
  rw [ofIndex_eq, ofIndex_eq, within, hbefore, hafter, hleft]

/-- A character that is no line feed is taken in the longer text if it is taken in the text. -/
theorem step?_within (hs : s.Sound) (hback : Broken back) {test : Char → Bool} (htest : test '\n' = false) :
    (s.within front back).step? test = (s.step? test).map (within front back) := by
  cases hafter : s.after with
  | nil =>
    cases back with
    | nil => simp [step?, within, hafter]
    | cons c rest =>
      obtain rfl : c = '\n' := hback c rfl
      simp [step?, within, hafter, htest]
  | cons c rest =>
    have hleft : s.left = rest.length + 1 := by rw [hs, hafter, List.length_cons]
    by_cases hc : test c = true
    · simp only [step?, within, hafter, List.cons_append, if_pos hc, Option.map_some, Option.some.injEq,
        Cursor.mk.injEq, true_and, and_true]
      omega
    · simp [step?, within, hafter, hc]

theorem atWordEdge_true (word : Char → Bool) (s : Cursor) :
    s.atWordEdge word true = (s.before.head?.any word != s.after.head?.any word) := by
  obtain ⟨before, after, left, marks⟩ := s
  cases before <;> cases after <;> simp [atWordEdge]

theorem any_head?_append {text : List Char} (xs : List Char) (h : Broken text) {word : Char → Bool}
    (hword : word '\n' = false) : (xs ++ text).head?.any word = xs.head?.any word := by
  cases xs with
  | cons x xs => rfl
  | nil =>
    cases text with
    | nil => rfl
    | cons c rest =>
      obtain rfl : c = '\n' := h c rfl
      simp [hword]

theorem atWordEdge_within (hfront : Broken front) (hback : Broken back) {word : Char → Bool}
    (hword : word '\n' = false) :
    (s.within front back).atWordEdge word true = s.atWordEdge word true := by
  rw [atWordEdge_true, atWordEdge_true, within, any_head?_append s.before hfront hword,
    any_head?_append s.after hback hword]

end Cursor

namespace Pattern

open Cursor (ofIndex Broken broken_nil broken_feed)

variable {p : Pattern} {front back text : List Char}

/-- No character that the pattern takes is a line feed, and all that it looks at is the edge of a word. -/
def inLine : Pattern → Bool
  | empty => true
  | one test => !test '\n'
  | place (.wordEdge word true) => !word '\n'
  | seq p q | either p q => p.inLine && q.inLine
  | _ => false

/-- In a longer text, the pattern matches as in a part of it that lies between line feeds. -/
theorem ways_within (hline : p.inLine = true) (hsimple : p.isSimple = true) (hfront : Broken front)
    (hback : Broken back) {s : Cursor} (hs : s.Sound) :
    p.ways (s.within front back) = (p.ways s).map (Cursor.within front back) := by
  induction p generalizing s with
  | empty => rfl
  | one test =>
    have htest : test '\n' = false := by simpa [inLine] using hline
    rw [ways, Cursor.step?_within hs hback htest, ways]
    cases s.step? test <;> rfl
  | place cond =>
    cases cond with
    | wordEdge word edge =>
      cases edge with
      | true =>
        have hword : word '\n' = false := by simpa [inLine] using hline
        by_cases hedge : s.atWordEdge word true = true
        · simp [ways, Place.holds, Cursor.atWordEdge_within hfront hback hword, hedge]
        · simp [ways, Place.holds, Cursor.atWordEdge_within hfront hback hword, hedge]
      | false => cases hline
    | textStart | lineStart | textEnd | lastLineEnd | lineEnd => cases hline
  | seq p q ihp ihq =>
    obtain ⟨hp, hq⟩ : p.inLine = true ∧ q.inLine = true := by simpa [inLine] using hline
    obtain ⟨hp', hq'⟩ : p.isSimple = true ∧ q.isSimple = true := by simpa [isSimple] using hsimple
    rw [ways, ways, ihp hp hp' hs, List.flatMap_map, List.map_flatMap]
    refine List.flatMap_congr fun t ht => ?_
    obtain ⟨n, -, -, rfl⟩ := exists_advance hp' ht
    exact ihq hq hq' (hs.advance n)
  | either p q ihp ihq =>
    obtain ⟨hp, hq⟩ : p.inLine = true ∧ q.inLine = true := by simpa [inLine] using hline
    obtain ⟨hp', hq'⟩ : p.isSimple = true ∧ q.isSimple = true := by simpa [isSimple] using hsimple
    rw [ways, ways, ihp hp hp' hs, ihq hq hq' hs, List.map_append]
  | span | loop | seize | group | once | ahead | behind | again | ifGroup => cases hline

theorem ways_ofIndex_within (hline : p.inLine = true) (hsimple : p.isSimple = true) (hfront : Broken front)
    (hback : Broken back) {n : Nat} (hn : n ≤ text.length) :
    p.ways (ofIndex (front.reverse ++ (text ++ back)) (front.length + n)) =
      (p.ways (ofIndex text n)).map (Cursor.within front back) := by
  rw [← Cursor.ofIndex_within front back text hn]
  exact ways_within hline hsimple hfront hback (Cursor.sound_ofIndex text n)

/-- The matches in a longer text are those in a part between line feeds and those behind it. -/
theorem Consumes.countFrom_within (hp : p.Consumes) (hline : p.inLine = true) (hfront : Broken front)
    (hback : Broken back) {n : Nat} (hn : n ≤ text.length) :
    p.countFrom (front.reverse ++ (text ++ back)) (front.length + n) =
      p.countFrom text n + p.countFrom (front.reverse ++ (text ++ back)) (front.length + text.length) := by
  -- by induction on the distance to the end of the part
  induction hd : text.length - n using Nat.strong_induction_on generalizing n with
  | h d ih =>
    obtain hlt | rfl := Nat.lt_or_eq_of_le hn
    · cases h : p.ways (ofIndex text n) with
      | nil =>
        have h' : p.ways (ofIndex (front.reverse ++ (text ++ back)) (front.length + n)) = [] := by
          rw [ways_ofIndex_within hline hp.simple hfront hback hn, h, List.map_nil]
        have hlonger : front.length + n < (front.reverse ++ (text ++ back)).length := by
          simp only [List.length_append, List.length_reverse]
          omega
        rw [hp.countFrom_of_nil hlonger h', hp.countFrom_of_nil hlt h, Nat.add_assoc,
          ih (text.length - (n + 1)) (by omega) hlt rfl]
      | cons t ts =>
        obtain ⟨m, hnm, hm, rfl⟩ := hp.exists_index (h ▸ List.mem_cons_self)
        have hhead : (p.ways (ofIndex text n)).head? = some (ofIndex text m) := by rw [h, List.head?_cons]
        have hhead' : (p.ways (ofIndex (front.reverse ++ (text ++ back)) (front.length + n))).head? =
            some (ofIndex (front.reverse ++ (text ++ back)) (front.length + m)) := by
          rw [ways_ofIndex_within hline hp.simple hfront hback hn, List.head?_map, hhead, Option.map_some,
            Cursor.ofIndex_within front back text hm]
        have hlonger : front.length + m ≤ (front.reverse ++ (text ++ back)).length := by
          simp only [List.length_append, List.length_reverse]
          omega
        rw [hp.countFrom_of_head hhead' hlonger, hp.countFrom_of_head hhead hm, ih (text.length - m) (by omega) hm rfl]
        omega
    · rw [hp.countFrom_end, Nat.zero_add]

/-- A line feed parts the matches: those before it and those behind it are found as if they were alone. -/
theorem Consumes.count_feed (hp : p.Consumes) (hline : p.inLine = true) (c t : List Char) :
    p.count (c ++ '\n' :: t) = p.count c + p.count t := by
  have hfirst := hp.countFrom_within hline broken_nil (broken_feed t) (Nat.zero_le c.length)
  have hsecond := hp.countFrom_within hline (broken_feed c.reverse) broken_nil (Nat.zero_le t.length)
  have hlength : (c ++ '\n' :: t).length = c.length + 1 + t.length := by
    simp only [List.length_append, List.length_cons]
    omega
  simp only [List.reverse_nil, List.nil_append, List.length_nil, Nat.zero_add, countFrom_zero] at hfirst
  simp only [List.reverse_cons, List.reverse_reverse, List.append_assoc, List.singleton_append, List.append_nil,
    List.length_cons, List.length_reverse, Nat.add_zero, countFrom_zero, ← hlength, hp.countFrom_end] at hsecond
  have hfeed : p.ways (ofIndex (c ++ '\n' :: t) c.length) = [] := by
    have hways := ways_ofIndex_within hline hp.simple broken_nil (broken_feed t) (Nat.le_refl c.length)
    rwa [hp.ways_end, List.map_nil, List.length_nil, Nat.zero_add] at hways
  rw [hfirst, hp.countFrom_of_nil (by omega) hfeed, hsecond]

end Pattern

end RiskGauge
