import RiskGauge.Proofs.Pattern.Visits
import RiskGauge.Proofs.Pattern.Words
import RiskGauge.Resource.FunctionBody

/-!
# Headers of functions

The header of a function is a word or two, a name, and arguments in parentheses, with a brace or an arrow behind them. The
patterns of the headers try many ways, but where a header ends is told by the text alone: behind the next parenthesis that
opens, the next one that closes, and the next brace or arrow (`namedBehind`, `arrowBehind`). So is its name (`namedLabel`,
`arrowLabel`). What is common to the two kinds of headers is `Reads`:

* `Reads.firstMatch_iff`: the first match at an index is the header that is read there;
* `Reads.settled`: a header that begins further on ends further on, as what follows the next occurrence of a character is
  less for a shorter text (`suffix_past`). So the headers that are found do not depend on what follows them.
-/

namespace RiskGauge.FunctionBody

open Pattern
open Cursor (ofIndex)

variable {text s s' u v w name rest : List Char} {c : Char} {prev : Option Char}

/-! ## Going on behind a character -/

/-- What stands behind the next occurrence of a character. -/
def past (c : Char) (s : List Char) : List Char :=
  (s.dropWhile (· != c)).tail

theorem past_append (h : c ∉ u) (rest : List Char) : past c (u ++ c :: rest) = rest := by
  have hdrop : u.dropWhile (· != c) = [] := by
    rw [List.dropWhile_eq_nil_iff]
    intro d hd
    exact bne_iff_ne.mpr fun heq => h (heq ▸ hd)
  rw [past, List.dropWhile_append, hdrop]
  simp

theorem suffix_dropWhile (test : Char → Bool) (h : s' <:+ s) : s'.dropWhile test <:+ s.dropWhile test := by
  obtain ⟨front, rfl⟩ := h
  induction front with
  | nil => exact List.suffix_refl _
  | cons c front ih =>
    rw [List.cons_append, List.dropWhile_cons]
    split
    · exact ih
    · exact (List.dropWhile_suffix test).trans (List.suffix_append (c :: front) s')

theorem suffix_tail (h : s' <:+ s) : s'.tail <:+ s.tail := by
  obtain ⟨front, rfl⟩ := h
  cases front with
  | nil => exact List.suffix_refl _
  | cons c front => exact (List.tail_suffix s').trans (List.suffix_append front s')

theorem suffix_past (c : Char) (h : s' <:+ s) : past c s' <:+ past c s :=
  suffix_tail (suffix_dropWhile _ h)

/-! ## Readings -/

/-- A reading of headers: the character before the header, the text from it on, the name and what follows the header. -/
abbrev Reading :=
  Option Char → List Char → List Char → List Char → Prop

/-- The first match of a pattern is what is read at an index, and what is read is told by the text alone: the name
(`label`) and what follows the header (`behind`). -/
structure Reads (p : Pattern) (read : Reading) (label behind : List Char → List Char) : Prop where
  exists_of_head? : ∀ {text i t}, (p.ways (ofIndex text i)).head? = some t →
    ∃ j name, j ≤ text.length ∧ t.unmarked = ofIndex text j ∧ t.group? 1 = some name ∧
      read (text.take i).getLast? (text.drop i) name (text.drop j)
  ways_ne_nil : ∀ {text i name rest}, read (text.take i).getLast? (text.drop i) name rest → p.ways (ofIndex text i) ≠ []
  label_eq : ∀ {prev s name rest}, read prev s name rest → label s = name
  behind_eq : ∀ {prev s name rest}, read prev s name rest → behind s = rest
  length_lt : ∀ {prev s name rest}, read prev s name rest → rest.length < s.length
  suffix : ∀ {s s'}, s' <:+ s → behind s' <:+ behind s
  append : ∀ {prev s name rest back} back', rest ≠ [] → read prev (s ++ back) name (rest ++ back) →
    read prev (s ++ back') name (rest ++ back')

namespace Reads

variable {p : Pattern} {read : Reading} {label behind : List Char → List Char} {i j : Nat}
  (h : Reads p read label behind)

include h

theorem firstMatch_iff : FirstMatch p text i j name ↔
    j ≤ text.length ∧ read (text.take i).getLast? (text.drop i) name (text.drop j) := by
  constructor
  · rintro ⟨t, ht, hj, hplace, hgroup⟩
    obtain ⟨k, other, hk, hplace', hgroup', hread⟩ := h.exists_of_head? ht
    obtain rfl := Cursor.ofIndex_inj hj hk (hplace.symm.trans hplace')
    obtain rfl := Option.some.inj (hgroup.symm.trans hgroup')
    exact ⟨hj, hread⟩
  · rintro ⟨hj, hread⟩
    obtain ⟨t, ht⟩ := Option.isSome_iff_exists.mp (List.isSome_head?.mpr (h.ways_ne_nil hread))
    obtain ⟨k, other, hk, hplace, hgroup, hread'⟩ := h.exists_of_head? ht
    obtain rfl : other = name := (h.label_eq hread').symm.trans (h.label_eq hread)
    have hlengths := congrArg List.length ((h.behind_eq hread').symm.trans (h.behind_eq hread))
    rw [List.length_drop, List.length_drop] at hlengths
    obtain rfl : k = j := by omega
    exact ⟨t, ht, hk, hplace, hgroup⟩

theorem settled : p.Settled where
  proceeds text i hways := by
    obtain ⟨t, ht⟩ := Option.isSome_iff_exists.mp (List.isSome_head?.mpr hways)
    obtain ⟨j, name, hj, hplace, hgroup, hread⟩ := h.exists_of_head? ht
    have hlength := h.length_lt hread
    rw [List.length_drop, List.length_drop] at hlength
    exact ⟨j, name, by omega, t, ht, hj, hplace, hgroup⟩
  mono := by
    intro text i j name i' j' name' hmatch hmatch' hle
    obtain ⟨hj, hread⟩ := h.firstMatch_iff.mp hmatch
    obtain ⟨hj', hread'⟩ := h.firstMatch_iff.mp hmatch'
    have hsuffix := (h.suffix (List.drop_suffix_drop_left text hle)).length_le
    rw [h.behind_eq hread, h.behind_eq hread', List.length_drop, List.length_drop] at hsuffix
    omega
  append := by
    intro a i j name back back' hj hmatch
    obtain ⟨-, hread⟩ := h.firstMatch_iff.mp hmatch
    have hlength := h.length_lt hread
    rw [List.length_drop, List.length_drop, List.length_append] at hlength
    have hi : i ≤ a.length := by omega
    refine h.firstMatch_iff.mpr ⟨by rw [List.length_append]; omega, ?_⟩
    rw [List.take_append_of_le_length hi, List.drop_append_of_le_length hi, List.drop_append_of_le_length hj.le]
      at hread ⊢
    exact h.append back' (List.ne_nil_of_length_pos (by rw [List.length_drop]; omega)) hread

end Reads

theorem not_mem_of_all {test : Char → Bool} (hc : test c = false) (h : ∀ d ∈ u, test d = true) : c ∉ u := by
  intro hmem
  rw [h c hmem] at hc
  cases hc

/-- A name ends where blanks or another character follow that is none of a word. -/
theorem takeWhile_name (hname : ∀ c ∈ name, Text.isWord c = true) (hblank : ∀ c ∈ u, Text.isBlank c = true)
    (hc : Text.isWord c = false) : (name ++ (u ++ c :: rest)).takeWhile Text.isWord = name := by
  rw [List.takeWhile_append_of_pos hname]
  cases u with
  | nil => simp [hc]
  | cons b u => simp [Text.isWord_of_isBlank (hblank b List.mem_cons_self)]

/-! ## Functions with a header of their own -/

/-- What stands before the name. -/
def namedFront : List Pattern :=
  [exactly "function", blanks, optional (char '*'), blanks]

/-- What stands behind the name. -/
def namedRear : List Pattern :=
  [blanks, char '(', many (· != ')'), char ')', many (fun c => c != '\x7b' && c != ';'), char '\x7b']

theorem namedHeader_eq : namedHeader = all (namedFront ++ group 1 (some1 Text.isWord) :: namedRear) := rfl

/-- The header of a function with a name, up to its opening brace. -/
def readNamed : Reading := fun _ s name rest =>
  ∃ u ∈ (all namedFront).language, name ∈ (some1 Text.isWord).language ∧
    ∃ w ∈ (all namedRear).language, s = u ++ (name ++ (w ++ rest))

/-- The first word behind the keyword. -/
def namedLabel (s : List Char) : List Char :=
  ((s.drop "function".toList.length).dropWhile (!Text.isWord ·)).takeWhile Text.isWord

/-- What stands behind the first brace that opens behind the arguments. -/
def namedBehind (s : List Char) : List Char :=
  past '\x7b' (past ')' (past '(' s))

theorem exists_of_namedFront (h : u ∈ (all namedFront).language) :
    ∃ x, u = "function".toList ++ x ∧ ∀ c ∈ x, Text.isBlank c = true ∨ c = '*' := by
  obtain ⟨_, hword, _, ⟨b, hb, _, ⟨star, hstar, _, ⟨b', hb', _, rfl, rfl⟩, rfl⟩, rfl⟩, rfl⟩ := h
  rw [mem_language_exactly.mp hword]
  refine ⟨_, rfl, fun c hc => ?_⟩
  simp only [List.append_nil, List.mem_append] at hc
  obtain hc | hc | hc := hc
  · exact .inl (mem_language_many.mp hb c hc)
  · obtain hstar | rfl := mem_language_optional.mp hstar
    · rw [mem_language_char.mp hstar] at hc
      exact .inr (List.mem_singleton.mp hc)
    · cases hc
  · exact .inl (mem_language_many.mp hb' c hc)

theorem exists_of_namedRear (h : w ∈ (all namedRear).language) :
    ∃ b args z, w = b ++ '(' :: (args ++ ')' :: (z ++ ['\x7b'])) ∧ (∀ c ∈ b, Text.isBlank c = true) ∧ ')' ∉ args ∧
      '\x7b' ∉ z := by
  obtain ⟨b, hb, _, ⟨_, hopen, _, ⟨args, hargs, _, ⟨_, hclose, _, ⟨z, hz, _, ⟨_, hbrace, _, rfl, rfl⟩, rfl⟩, rfl⟩, rfl⟩,
    rfl⟩, rfl⟩ := h
  rw [mem_language_char.mp hopen, mem_language_char.mp hclose, mem_language_char.mp hbrace]
  refine ⟨b, args, z, rfl, mem_language_many.mp hb, ?_, ?_⟩
  · exact not_mem_of_all (by decide) (mem_language_many.mp hargs)
  · exact not_mem_of_all (by decide) (mem_language_many.mp hz)

/-- The parts of a header: between the keyword and the name, before the arguments, the arguments, and what stands between
them and the brace. -/
theorem exists_of_readNamed (h : readNamed prev s name rest) :
    ∃ x b args z, s = "function".toList ++ (x ++ (name ++ (b ++ '(' :: (args ++ ')' :: (z ++ '\x7b' :: rest))))) ∧
      (∀ c ∈ x, Text.isBlank c = true ∨ c = '*') ∧ (name ≠ [] ∧ ∀ c ∈ name, Text.isWord c = true) ∧
      (∀ c ∈ b, Text.isBlank c = true) ∧ ')' ∉ args ∧ '\x7b' ∉ z := by
  obtain ⟨u, hu, hname, w, hw, rfl⟩ := h
  obtain ⟨x, rfl, hx⟩ := exists_of_namedFront hu
  obtain ⟨b, args, z, rfl, hb, hargs, hz⟩ := exists_of_namedRear hw
  exact ⟨x, b, args, z, by simp, hx, mem_language_some1.mp hname, hb, hargs, hz⟩

/-- The last character of a header is a brace. -/
theorem exists_front_of_readNamed (h : readNamed prev s name rest) : ∃ front, s = front ++ '\x7b' :: rest := by
  obtain ⟨x, b, args, z, rfl, -⟩ := exists_of_readNamed h
  refine ⟨"function".toList ++ (x ++ (name ++ (b ++ '(' :: (args ++ ')' :: z)))), ?_⟩
  simp only [List.append_assoc, List.cons_append]

theorem namedLabel_eq (h : readNamed prev s name rest) : namedLabel s = name := by
  obtain ⟨x, b, args, z, rfl, hx, ⟨hne, hname⟩, hb, -, -⟩ := exists_of_readNamed h
  have hbefore : ∀ c ∈ x, (!Text.isWord c) = true := by
    intro c hc
    rcases hx c hc with hblank | rfl
    · rw [Text.isWord_of_isBlank hblank]
      rfl
    · decide
  obtain ⟨d, name, rfl⟩ := List.exists_cons_of_ne_nil hne
  have hd : Text.isWord d = true := hname d List.mem_cons_self
  rw [namedLabel, List.drop_left, List.dropWhile_append_of_pos hbefore, List.cons_append,
    List.dropWhile_cons_of_neg (by simp [hd]), ← List.cons_append]
  exact takeWhile_name hname hb (by decide)

theorem namedBehind_eq (h : readNamed prev s name rest) : namedBehind s = rest := by
  obtain ⟨x, b, args, z, rfl, hx, ⟨-, hname⟩, hb, hargs, hz⟩ := exists_of_readNamed h
  have hfront : '(' ∉ "function".toList ++ (x ++ (name ++ b)) := by
    simp only [List.mem_append, not_or]
    refine ⟨by decide, fun hmem => ?_, not_mem_of_all (by decide) hname, not_mem_of_all (by decide) hb⟩
    have hparen := hx '(' hmem
    revert hparen
    decide
  have hparts : "function".toList ++ (x ++ (name ++ (b ++ '(' :: (args ++ ')' :: (z ++ '\x7b' :: rest))))) =
      "function".toList ++ (x ++ (name ++ b)) ++ '(' :: (args ++ ')' :: (z ++ '\x7b' :: rest)) := by
    simp only [List.append_assoc]
  rw [namedBehind, hparts, past_append hfront, past_append hargs, past_append hz]

theorem reads_named : Reads namedHeader readNamed namedLabel namedBehind where
  exists_of_head? := by
    intro text i t ht
    have hmem := List.mem_of_head? ht
    rw [namedHeader_eq, mem_ways_overGroup rfl rfl] at hmem
    obtain ⟨f, hf, name, hname, w, hw, ⟨rest, hrest⟩, rfl⟩ := hmem
    obtain ⟨u, hu, ⟨tail, htail⟩, rfl⟩ := (mem_ways_iff rfl).mp hf
    rw [Cursor.ofIndex_advance] at hrest ⊢
    rw [Cursor.ofIndex_after] at hrest htail
    rw [List.append_assoc] at hrest
    obtain ⟨j, hj, hplace, hgroup, hbehind⟩ := Cursor.exists_index_overGroup (mem_language_some1.mp hname).1 hrest.symm
    refine ⟨j, name, hj, hplace, hgroup, u, hu, hname, w, hw, ?_⟩
    rw [hbehind, hrest, ← List.drop_drop, ← htail, List.drop_left]
  ways_ne_nil := by
    rintro text i name rest ⟨u, hu, hname, w, hw, hs⟩
    refine List.ne_nil_of_mem (a := ((ofIndex text i).advance u.length).overGroup name.length w.length) ?_
    rw [namedHeader_eq, mem_ways_overGroup rfl rfl]
    refine ⟨_, (mem_ways_iff rfl).mpr ⟨u, hu, ⟨_, hs.symm⟩, rfl⟩, name, hname, w, hw, ⟨rest, ?_⟩, rfl⟩
    rw [Cursor.advance_after, Cursor.ofIndex_after, hs, List.drop_left, List.append_assoc]
  label_eq := namedLabel_eq
  behind_eq := namedBehind_eq
  length_lt := by
    intro prev s name rest h
    obtain ⟨x, b, args, z, rfl, -⟩ := exists_of_readNamed h
    simp only [List.length_append, List.length_cons]
    omega
  suffix h := suffix_past _ (suffix_past _ (suffix_past _ h))
  append := by
    rintro prev s name rest back back' - ⟨u, hu, hname, w, hw, hs⟩
    refine ⟨u, hu, hname, w, hw, ?_⟩
    simp only [← List.append_assoc] at hs ⊢
    rw [List.append_cancel_right hs]

/-! ## Arrow functions -/

/-- What stands behind the name, up to the arrow. -/
def arrowRear : List Pattern :=
  [blanks, char '=', blanks, optional (seq (exactly "async") blanks), char '(', many (· != ')'), char ')',
    many (fun c => c != '=' && c != ';' && c != '\x7b'), exactly "=>"]

/-- The header of an arrow function up to the arrow. -/
def arrowStart : Pattern :=
  all ([edge] ++ group 1 (some1 Text.isWord) :: arrowRear)

/-- The header of an arrow function, which begins where a word does, up to its body. -/
def readArrow : Reading := fun prev s name rest =>
  prev.any Text.isWord = false ∧ name ∈ (some1 Text.isWord).language ∧
    ∃ w ∈ (all arrowRear).language, ∃ body, s = name ++ (w ++ body) ∧ rest = body.dropWhile Text.isBlank

/-- The first word. -/
def arrowLabel (s : List Char) : List Char :=
  s.takeWhile Text.isWord

/-- What stands behind the first arrow that follows the arguments, without the blanks. -/
def arrowBehind (s : List Char) : List Char :=
  (past '=' (past ')' (past '(' s))).tail.dropWhile Text.isBlank

/-- The blanks behind the arrow belong to the header, all of them. -/
theorem head?_ways_arrow (s : Cursor) : (arrowHeader.ways s).head? =
    (arrowStart.ways s).head?.map fun t => t.advance (t.after.takeWhile Text.isBlank).length := by
  have hways : arrowHeader.ways s = (arrowStart.ways s).flatMap (all [blanks]).ways :=
    ways_all_append ([edge] ++ group 1 (some1 Text.isWord) :: arrowRear) [blanks] s
  have hblanks : ∀ t, ((all [blanks]).ways t).head? = some (t.advance (t.after.takeWhile Text.isBlank).length) := by
    intro t
    have hall : (all [blanks]).ways t = (many Text.isBlank).ways t := List.flatMap_singleton' _
    rw [hall, head?_ways_many]
  rw [hways, List.head?_flatMap]
  cases arrowStart.ways s with
  | nil => rfl
  | cons t ways => simp [hblanks]

theorem mem_ways_arrowStart {t : Cursor} {i : Nat} : t ∈ arrowStart.ways (ofIndex text i) ↔
    (text.take i).getLast?.any Text.isWord = false ∧ ∃ name ∈ (some1 Text.isWord).language,
      ∃ w ∈ (all arrowRear).language, name ++ w <+: text.drop i ∧
        t = (ofIndex text i).overGroup name.length w.length := by
  have hedge : ∀ name ∈ (some1 Text.isWord).language, ∀ w, name ++ w <+: text.drop i →
      ((ofIndex text i).atWordEdge Text.isWord true = true ↔ (text.take i).getLast?.any Text.isWord = false) := by
    intro name hname w hprefix
    have hword : Text.isOneWord name = true := Text.isOneWord_iff.mpr (mem_language_some1.mp hname)
    exact atWordEdge_of_word hword ((List.prefix_append name w).trans hprefix)
  rw [arrowStart, mem_ways_overGroup rfl rfl]
  simp only [mem_ways_all_cons, mem_ways_all_nil, mem_ways_edge]
  constructor
  · rintro ⟨_, ⟨_, ⟨hedge', rfl⟩, rfl⟩, name, hname, w, hw, hprefix, rfl⟩
    exact ⟨(hedge name hname w hprefix).mp hedge', name, hname, w, hw, hprefix, rfl⟩
  · rintro ⟨hbefore, name, hname, w, hw, hprefix, rfl⟩
    exact ⟨_, ⟨_, ⟨(hedge name hname w hprefix).mpr hbefore, rfl⟩, rfl⟩, name, hname, w, hw, hprefix, rfl⟩

theorem exists_of_arrowRear (h : w ∈ (all arrowRear).language) :
    ∃ b y args z, w = b ++ '=' :: (y ++ '(' :: (args ++ ')' :: (z ++ ['=', '>']))) ∧
      (∀ c ∈ b, Text.isBlank c = true) ∧ '(' ∉ y ∧ ')' ∉ args ∧ '=' ∉ z := by
  obtain ⟨b, hb, _, ⟨_, heq, _, ⟨b', hb', _, ⟨async, hasync, _, ⟨_, hopen, _, ⟨args, hargs, _, ⟨_, hclose, _,
    ⟨z, hz, _, ⟨_, harrow, _, rfl, rfl⟩, rfl⟩, rfl⟩, rfl⟩, rfl⟩, rfl⟩, rfl⟩, rfl⟩, rfl⟩ := h
  rw [mem_language_char.mp heq, mem_language_char.mp hopen, mem_language_char.mp hclose, mem_language_exactly.mp harrow]
  refine ⟨b, b' ++ async, args, z, ?_, mem_language_many.mp hb, ?_, ?_, ?_⟩
  · simp
  · rw [List.mem_append, not_or]
    refine ⟨not_mem_of_all (by decide) (mem_language_many.mp hb'), ?_⟩
    rcases mem_language_optional.mp hasync with ⟨word, hword, b'', hb'', rfl⟩ | rfl
    · simp only [mem_language_exactly.mp hword, List.mem_append, not_or]
      exact ⟨by decide, not_mem_of_all (by decide) (mem_language_many.mp hb'')⟩
    · exact List.not_mem_nil
  · exact not_mem_of_all (by decide) (mem_language_many.mp hargs)
  · exact not_mem_of_all (by decide) (mem_language_many.mp hz)

/-- The parts of a header: before the equals sign, between it and the arguments, the arguments, what stands between them
and the arrow, and the blanks. -/
theorem exists_of_readArrow (h : readArrow prev s name rest) :
    ∃ b y args z blank, s = name ++ (b ++ '=' :: (y ++ '(' :: (args ++ ')' :: (z ++ '=' :: '>' :: (blank ++ rest))))) ∧
      (name ≠ [] ∧ ∀ c ∈ name, Text.isWord c = true) ∧ (∀ c ∈ b, Text.isBlank c = true) ∧ '(' ∉ y ∧ ')' ∉ args ∧ '=' ∉ z ∧
      (blank ++ rest).dropWhile Text.isBlank = rest := by
  obtain ⟨-, hname, w, hw, body, rfl, rfl⟩ := h
  obtain ⟨b, y, args, z, rfl, hb, hy, hargs, hz⟩ := exists_of_arrowRear hw
  refine ⟨b, y, args, z, body.takeWhile Text.isBlank, ?_, mem_language_some1.mp hname, hb, hy, hargs, hz, ?_⟩
  · rw [List.takeWhile_append_dropWhile]
    simp
  · rw [List.takeWhile_append_dropWhile]

theorem arrowLabel_eq (h : readArrow prev s name rest) : arrowLabel s = name := by
  obtain ⟨b, y, args, z, blank, rfl, ⟨-, hname⟩, hb, -⟩ := exists_of_readArrow h
  exact takeWhile_name hname hb (by decide)

theorem arrowBehind_eq (h : readArrow prev s name rest) : arrowBehind s = rest := by
  obtain ⟨b, y, args, z, blank, rfl, ⟨-, hname⟩, hb, hy, hargs, hz, hblank⟩ := exists_of_readArrow h
  have hfront : '(' ∉ name ++ (b ++ '=' :: y) := by
    simp only [List.mem_append, List.mem_cons, not_or]
    exact ⟨not_mem_of_all (by decide) hname, not_mem_of_all (by decide) hb, by decide, hy⟩
  have hparts : name ++ (b ++ '=' :: (y ++ '(' :: (args ++ ')' :: (z ++ '=' :: '>' :: (blank ++ rest))))) =
      name ++ (b ++ '=' :: y) ++ '(' :: (args ++ ')' :: (z ++ '=' :: '>' :: (blank ++ rest))) := by
    simp only [List.append_assoc, List.cons_append]
  rw [arrowBehind, hparts, past_append hfront, past_append hargs, past_append hz, List.tail_cons, hblank]

theorem reads_arrow : Reads arrowHeader readArrow arrowLabel arrowBehind where
  exists_of_head? := by
    intro text i t ht
    rw [head?_ways_arrow] at ht
    obtain ⟨f, hf, rfl⟩ := Option.map_eq_some_iff.mp ht
    obtain ⟨hbefore, name, hname, w, hw, ⟨body, hbody⟩, rfl⟩ := mem_ways_arrowStart.mp (List.mem_of_head? hf)
    rw [List.append_assoc] at hbody
    have hafter : ((ofIndex text i).overGroup name.length w.length).after = body := by
      show ((text.drop i).drop name.length).drop w.length = body
      rw [← hbody, List.drop_left, List.drop_left]
    have hparts : text.drop i = name ++ ((w ++ body.takeWhile Text.isBlank) ++ body.dropWhile Text.isBlank) := by
      rw [List.append_assoc, List.takeWhile_append_dropWhile, hbody]
    obtain ⟨j, hj, hplace, hgroup, hbehind⟩ := Cursor.exists_index_overGroup (mem_language_some1.mp hname).1 hparts
    rw [hafter, Cursor.overGroup, Cursor.advance_advance, ← List.length_append]
    exact ⟨j, name, hj, hplace, hgroup, hbefore, hname, w, hw, body, hbody.symm, hbehind⟩
  ways_ne_nil := by
    rintro text i name rest ⟨hbefore, hname, w, hw, body, hs, -⟩ hnil
    have hmem : (ofIndex text i).overGroup name.length w.length ∈ arrowStart.ways (ofIndex text i) :=
      mem_ways_arrowStart.mpr ⟨hbefore, name, hname, w, hw, ⟨body, by rw [hs, List.append_assoc]⟩, rfl⟩
    have hhead := head?_ways_arrow (ofIndex text i)
    rw [hnil, List.head?_nil, eq_comm, Option.map_eq_none_iff, List.head?_eq_none_iff] at hhead
    rw [hhead] at hmem
    cases hmem
  label_eq := arrowLabel_eq
  behind_eq := arrowBehind_eq
  length_lt := by
    intro prev s name rest h
    obtain ⟨b, y, args, z, blank, rfl, -⟩ := exists_of_readArrow h
    simp only [List.length_append, List.length_cons]
    omega
  suffix h := suffix_dropWhile _ (suffix_tail (suffix_past _ (suffix_past _ (suffix_past _ h))))
  append := by
    rintro prev s name rest back back' hne ⟨hbefore, hname, w, hw, body, hs, hbody⟩
    obtain ⟨c, rest, rfl⟩ := List.exists_cons_of_ne_nil hne
    have hc : Text.isBlank c = false := by
      have hhead := List.head?_dropWhile_not Text.isBlank body
      rwa [← hbody] at hhead
    refine ⟨hbefore, hname, w, hw, body.takeWhile Text.isBlank ++ (c :: rest ++ back'), ?_, ?_⟩
    · rw [← List.takeWhile_append_dropWhile (p := Text.isBlank) (l := body), ← hbody] at hs
      simp only [← List.append_assoc] at hs ⊢
      rw [List.append_cancel_right hs]
    · rw [List.dropWhile_append_of_pos fun d hd => List.mem_takeWhile_imp hd, List.cons_append,
        List.dropWhile_cons_of_neg (by simp [hc])]

end RiskGauge.FunctionBody
