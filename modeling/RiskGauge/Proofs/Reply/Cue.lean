import Mathlib.Data.List.Chain
import RiskGauge.Proofs.Pattern.Language
import RiskGauge.Proofs.Pattern.Words
import RiskGauge.Proofs.Text.Case
import RiskGauge.Reply.FileHint

/-!
# Words that ask for a file

`FileHint.cue` takes the texts of a language, `cueWords`, where a word begins; the Korean ones it takes anywhere
(`mem_ways_cue`). What is used of these texts is said by `CueShape`: the first character tells how many characters of
names there are in the text, no other character begins words that ask for a file, and behind a blank there is no
character of names but the first one of `as`. So of two of these texts neither goes on with a name where the other one
ends (`not_mem_of_append`).
-/

namespace RiskGauge.FileHint

open Pattern
open Text (isBlank isWord sameLetter variants)

/-- The characters that are taken for a name: case is disregarded. -/
abbrev isTaken : Char → Bool :=
  oneAnyCase isNameChar

variable {w u v b : List Char} {a c d : Char}

/-! ## The language of cues -/

/-- The words that have to begin where a word does. -/
def latinCues : List (List Pattern) :=
  [[anyCase "file", blanks, one (fun c => c == ':' || c == '='), blanks],
    [anyCase "create", gap],
    [anyCase "make", gap],
    [anyCase "save", blanks, anyCase "as", gap]]

/-- The words that can stand anywhere. -/
def koreanCue : List Pattern :=
  [anyCase "파일", optional (either (anyCase "명") (anyCase "을")), blanks,
    optional (either (anyCase "은") (anyCase "을")), blanks]

/-- The words in front of a file name, wherever they stand. -/
def cueWords : Pattern :=
  any ((latinCues ++ [koreanCue]).map all)

theorem cue_eq : cue = any (latinCues.map (fun ps => all (edge :: ps)) ++ [all koreanCue]) := rfl

/-- A text is a word with case disregarded. -/
def Spells (word : String) (w : List Char) : Prop :=
  List.Forall₂ (fun a c => sameLetter a c = true) word.toList w

/-- All characters are blank. -/
def Blank (w : List Char) : Prop :=
  ∀ c ∈ w, isBlank c = true

theorem mem_language_anyCase {word : String} : w ∈ (anyCase word).language ↔ Spells word w :=
  mem_language_textBy

theorem mem_language_blanks : w ∈ blanks.language ↔ Blank w :=
  mem_language_many

theorem mem_language_gap : w ∈ gap.language ↔ w ≠ [] ∧ Blank w :=
  mem_language_some1

/-! ## Characters of cues -/

/-- How many characters of names there are in the words that begin with a character. -/
def wordLetters (c : Char) : Nat :=
  if sameLetter 'f' c || sameLetter 'm' c then 4
  else if sameLetter 'c' c || sameLetter 's' c then 6
  else 0

/-- Words that ask for a file can begin with the character. -/
def isInitial (c : Char) : Bool :=
  c == '파' || 0 < wordLetters c

/-- The character can stand behind a blank in words that ask for a file. -/
def isFollower (c : Char) : Bool :=
  isBlank c || [':', '=', '일', '명', '을', '은'].contains c || sameLetter 'a' c

/-- Two characters of a text side by side: no words that ask for a file begin with the second. -/
def NoCue (c d : Char) : Prop :=
  isInitial d = true → isWord c = true ∧ d ≠ '파'

instance : DecidableRel NoCue := fun c d =>
  inferInstanceAs (Decidable (isInitial d = true → isWord c = true ∧ d ≠ '파'))

/-- Two characters that can stand side by side in words that ask for a file. -/
def Inside (c d : Char) : Prop :=
  NoCue c d ∧ (isBlank c = true → isFollower d = true)

/-- The letters of the words. -/
def isLetter (c : Char) : Bool :=
  isTaken c && isWord c && !isBlank c && c != '파'

/-- What can stand behind any character. -/
def isSoft (c : Char) : Bool :=
  !isInitial c && isFollower c

theorem soft_of_blank (h : isBlank c = true) : isSoft c = true ∧ isTaken c = false :=
  Text.of_isBlank (p := fun c => isSoft c = true ∧ isTaken c = false) (by decide +kernel) h

theorem isChain_of_letters (h : ∀ c ∈ w, isLetter c = true) : w.IsChain Inside := by
  induction w with
  | nil => exact .nil
  | cons c w ih =>
    rw [List.forall_mem_cons] at h
    refine List.isChain_cons.mpr ⟨fun d hd => ?_, ih h.2⟩
    have hletter := h.2 d (List.mem_of_mem_head? hd)
    simp only [isLetter, Bool.and_eq_true, Bool.not_eq_true', bne_iff_ne] at h hletter
    exact ⟨fun _ => ⟨h.1.1.1.2, hletter.2⟩, fun hblank => absurd hblank (by rw [h.1.1.2]; exact Bool.false_ne_true)⟩

theorem inside_of_soft (h : isSoft d = true) : Inside c d := by
  simp only [isSoft, Bool.and_eq_true, Bool.not_eq_true'] at h
  exact ⟨fun hinitial => absurd hinitial (by rw [h.1]; exact Bool.false_ne_true), fun _ => h.2⟩

theorem isChain_of_soft (h : ∀ c ∈ w, isSoft c = true) : w.IsChain Inside := by
  induction w with
  | nil => exact .nil
  | cons c w ih =>
    rw [List.forall_mem_cons] at h
    exact List.isChain_cons.mpr ⟨fun d hd => inside_of_soft (h.2 d (List.mem_of_mem_head? hd)), ih h.2⟩

theorem isChain_append_soft (hu : u.IsChain Inside) (hv : ∀ c ∈ v, isSoft c = true) : (u ++ v).IsChain Inside :=
  hu.append (isChain_of_soft hv) fun _ _ d hd => inside_of_soft (hv d (List.mem_of_mem_head? hd))

theorem countP_letters (h : ∀ c ∈ w, isLetter c = true) : w.countP isTaken = w.length := by
  refine List.countP_eq_length.mpr fun c hc => ?_
  have hletter := h c hc
  simp only [isLetter, Bool.and_eq_true] at hletter
  exact hletter.1.1.1

theorem countP_blank (h : Blank w) : w.countP isTaken = 0 := by
  refine List.countP_eq_zero.mpr fun c hc => ?_
  rw [(soft_of_blank (h c hc)).2]
  exact Bool.false_ne_true

/-! ## The shape of cues -/

/-- What is known of words that ask for a file. -/
structure CueShape (w : List Char) : Prop where
  first : ∃ c v, w = c :: v ∧ isInitial c = true ∧ w.countP isTaken = wordLetters c
  inside : w.IsChain Inside
  untaken : ∃ c ∈ w, isTaken c = false

/-- The letters of a word are those of names, and its first letter tells how many there are. -/
def isCueWord (word : String) (n : Nat) : Bool :=
  (word.toList.all fun a => (variants a).all isLetter) &&
    word.toList.head?.any fun a => (variants a).all fun c => isInitial c && wordLetters c == n

theorem letters_of_spells {word : String} {n : Nat} (hword : isCueWord word n = true) (hu : Spells word u) :
    ∀ c ∈ u, isLetter c = true := by
  rw [isCueWord, Bool.and_eq_true] at hword
  exact Text.of_sameLetter hword.1 hu

/-- A word with case disregarded begins with its first letter. -/
theorem exists_cons_of_spells {word : String} {n : Nat} (hword : isCueWord word n = true) (hu : Spells word u) :
    ∃ c v, u = c :: v ∧ isInitial c = true ∧ wordLetters c = n := by
  rw [isCueWord, Bool.and_eq_true] at hword
  unfold Spells at hu
  cases hletters : word.toList with
  | nil =>
    rw [hletters] at hword
    cases hword.2
  | cons a letters =>
    rw [hletters] at hword hu
    obtain ⟨c, v, hc, -, rfl⟩ := List.forall₂_cons_left_iff.mp hu
    have hall := List.all_eq_true.mp hword.2 c (Text.mem_variants_of_sameLetter hc)
    rw [Bool.and_eq_true, beq_iff_eq] at hall
    exact ⟨c, v, rfl, hall⟩

/-- A word, and no other characters of names behind it. -/
theorem cueShape_of_word {word : String} (hword : isCueWord word word.toList.length = true) (hu : Spells word u)
    (hv : v ≠ []) (hsoft : ∀ c ∈ v, isSoft c = true ∧ isTaken c = false) : CueShape (u ++ v) := by
  have hletters := letters_of_spells hword hu
  have hcount : (u ++ v).countP isTaken = word.toList.length := by
    have hnone : v.countP isTaken = 0 := List.countP_eq_zero.mpr fun c hc => by simp [(hsoft c hc).2]
    rw [List.countP_append, countP_letters hletters, hnone, List.Forall₂.length_eq hu, Nat.add_zero]
  obtain ⟨c, rest, rfl, hinitial, hn⟩ := exists_cons_of_spells hword hu
  obtain ⟨d, v, rfl⟩ := List.exists_cons_of_ne_nil hv
  exact ⟨⟨c, rest ++ d :: v, rfl, hinitial, by rw [hcount, hn]⟩,
    isChain_append_soft (isChain_of_letters hletters) fun c hc => (hsoft c hc).1,
    d, by simp, (hsoft d List.mem_cons_self).2⟩

/-- The letters of `as` are the only ones that do not belong to the first word. -/
theorem cueShape_save {s : Char} {b' : List Char} (hu : Spells "save" u) (hb : Blank b) (has : Spells "as" [a, s])
    (hne : b' ≠ []) (hb' : Blank b') : CueShape (u ++ (b ++ ([a, s] ++ b'))) := by
  have hword : isCueWord "save" 6 = true := by decide +kernel
  have hletters := letters_of_spells hword hu
  have hletters' : ∀ c ∈ [a, s], isLetter c = true := Text.of_sameLetter (by decide +kernel) has
  have hcount : (u ++ (b ++ ([a, s] ++ b'))).countP isTaken = 6 := by
    rw [List.countP_append, List.countP_append, List.countP_append, countP_letters hletters, countP_blank hb,
      countP_letters hletters', countP_blank hb', ← List.Forall₂.length_eq hu]
    rfl
  have hinside : (u ++ b ++ [a] ++ (s :: b')).IsChain Inside := by
    obtain ⟨ha, -⟩ := List.forall₂_cons.mp has
    have hsoft : isSoft a = true := List.all_eq_true.mp (by decide +kernel : (variants 'a').all isSoft = true) a
      (Text.mem_variants_of_sameLetter ha)
    have hblank : (u ++ b).IsChain Inside :=
      isChain_append_soft (isChain_of_letters hletters) fun c hc => (soft_of_blank (hb c hc)).1
    have hfront : (u ++ b ++ [a]).IsChain Inside :=
      isChain_append_soft hblank fun c hc => by rwa [List.mem_singleton.mp hc]
    have hback : ([a, s] ++ b').IsChain Inside :=
      isChain_append_soft (isChain_of_letters hletters') fun c hc => (soft_of_blank (hb' c hc)).1
    exact List.IsChain.append_overlap hfront hback (List.cons_ne_nil a [])
  obtain ⟨c, rest, rfl, hinitial, hn⟩ := exists_cons_of_spells hword hu
  obtain ⟨d, b', rfl⟩ := List.exists_cons_of_ne_nil hne
  exact ⟨⟨c, rest ++ (b ++ ([a, s] ++ d :: b')), rfl, hinitial, by rw [hcount, hn]⟩, by simpa using hinside,
    d, by simp, (soft_of_blank (hb' d List.mem_cons_self)).2⟩

/-- What stands behind the first character of the Korean words. -/
theorem soft_of_particle {word : String} (h : w ∈ (anyCase word).language)
    (hword : (word.toList.all fun a => (variants a).all fun c => isSoft c && !isTaken c) = true) :
    ∀ c ∈ w, isSoft c = true ∧ isTaken c = false := by
  intro c hc
  have hsoft := Text.of_sameLetter hword (mem_language_anyCase.mp h) c hc
  rwa [Bool.and_eq_true, Bool.not_eq_true'] at hsoft

theorem soft_of_optional {word word' : String} (h : w ∈ (optional (either (anyCase word) (anyCase word'))).language)
    (hword : ((word ++ word').toList.all fun a => (variants a).all fun c => isSoft c && !isTaken c) = true) :
    ∀ c ∈ w, isSoft c = true ∧ isTaken c = false := by
  rw [String.toList_append, List.all_append, Bool.and_eq_true] at hword
  obtain (h | h) | rfl := mem_language_optional.mp h
  · exact soft_of_particle h hword.1
  · exact soft_of_particle h hword.2
  · exact fun _ hc => absurd hc List.not_mem_nil

/-- The Korean words have no characters of names at all. -/
theorem cueShape_korean (h : w ∈ (all koreanCue).language) : CueShape w ∧ w.head? = some '파' := by
  simp only [koreanCue, mem_language_all_cons, mem_language_all_nil] at h
  obtain ⟨u, hu, _, ⟨o, ho, _, ⟨b, hb, _, ⟨o', ho', _, ⟨b', hb', _, rfl, rfl⟩, rfl⟩, rfl⟩, rfl⟩, rfl⟩ := h
  obtain ⟨c, v, hc, hv, rfl⟩ := List.forall₂_cons_left_iff.mp (mem_language_anyCase.mp hu)
  obtain rfl : c = '파' := by
    have hall := List.all_eq_true.mp (by decide +kernel : ((variants '파').all (· == '파')) = true) c
      (Text.mem_variants_of_sameLetter hc)
    exact beq_iff_eq.mp hall
  have hrest : ∀ d ∈ v ++ (o ++ (b ++ (o' ++ (b' ++ [])))), isSoft d = true ∧ isTaken d = false := by
    simp only [List.forall_mem_append]
    refine ⟨?_, soft_of_optional ho (by decide +kernel), fun d hd => soft_of_blank (mem_language_blanks.mp hb d hd),
      soft_of_optional ho' (by decide +kernel), fun d hd => soft_of_blank (mem_language_blanks.mp hb' d hd), by simp⟩
    have hparticle : v ∈ (anyCase "일").language := mem_language_anyCase.mpr hv
    exact soft_of_particle hparticle (by decide +kernel)
  have huntaken : isTaken '파' = false := by decide +kernel
  have hcount : ('파' :: (v ++ (o ++ (b ++ (o' ++ (b' ++ [])))))).countP isTaken = 0 := by
    refine List.countP_eq_zero.mpr (List.forall_mem_cons.mpr ⟨by simp [huntaken], fun d hd => ?_⟩)
    simp [(hrest d hd).2]
  refine ⟨⟨⟨'파', _, rfl, by decide +kernel, hcount.trans (by decide +kernel)⟩, ?_, '파', List.mem_cons_self, huntaken⟩,
    rfl⟩
  exact List.isChain_cons.mpr ⟨fun d hd => inside_of_soft (hrest d (List.mem_of_mem_head? hd)).1,
    isChain_of_soft fun d hd => (hrest d hd).1⟩

/-- The first letter of a word is no part of the Korean ones. -/
theorem head?_of_spells {word : String} {n : Nat} (hword : isCueWord word n = true) (hu : Spells word u) :
    (u ++ v).head?.any isWord = true ∧ (u ++ v).head? ≠ some '파' := by
  have hletters := letters_of_spells hword hu
  obtain ⟨c, rest, rfl, -⟩ := exists_cons_of_spells hword hu
  have hletter := hletters c List.mem_cons_self
  simp only [isLetter, Bool.and_eq_true, bne_iff_ne] at hletter
  exact ⟨hletter.1.1.2, fun hhead => hletter.2 (Option.some.inj hhead)⟩

/-- The other words begin with a letter. -/
theorem cueShape_latin {ps : List Pattern} (hps : ps ∈ latinCues) (h : w ∈ (all ps).language) :
    CueShape w ∧ w.head?.any isWord = true ∧ w.head? ≠ some '파' := by
  have hfile : isCueWord "file" 4 = true := by decide +kernel
  have hcreate : isCueWord "create" 6 = true := by decide +kernel
  have hmake : isCueWord "make" 4 = true := by decide +kernel
  have hsave : isCueWord "save" 6 = true := by decide +kernel
  simp only [latinCues, List.mem_cons, List.not_mem_nil, or_false] at hps
  obtain rfl | rfl | rfl | rfl := hps <;>
    simp only [mem_language_all_cons, mem_language_all_nil, mem_language_anyCase, mem_language_blanks,
      mem_language_gap, mem_language_one, Bool.or_eq_true, beq_iff_eq] at h
  · obtain ⟨u, hu, _, ⟨b, hb, _, ⟨_, ⟨c, rfl, hc⟩, _, ⟨b', hb', _, rfl, rfl⟩, rfl⟩, rfl⟩, rfl⟩ := h
    refine ⟨cueShape_of_word hfile hu (by simp) ?_, head?_of_spells hfile hu⟩
    simp only [List.forall_mem_append, List.mem_singleton, forall_eq]
    refine ⟨fun d hd => soft_of_blank (hb d hd), ?_, fun d hd => soft_of_blank (hb' d hd), by simp⟩
    obtain rfl | rfl := hc <;> decide +kernel
  · obtain ⟨u, hu, _, ⟨b, ⟨hne, hb⟩, _, rfl, rfl⟩, rfl⟩ := h
    rw [List.append_nil]
    exact ⟨cueShape_of_word hcreate hu hne fun d hd => soft_of_blank (hb d hd), head?_of_spells hcreate hu⟩
  · obtain ⟨u, hu, _, ⟨b, ⟨hne, hb⟩, _, rfl, rfl⟩, rfl⟩ := h
    rw [List.append_nil]
    exact ⟨cueShape_of_word hmake hu hne fun d hd => soft_of_blank (hb d hd), head?_of_spells hmake hu⟩
  · obtain ⟨u, hu, _, ⟨b, hb, _, ⟨v, hv, _, ⟨b', ⟨hne, hb'⟩, _, rfl, rfl⟩, rfl⟩, rfl⟩, rfl⟩ := h
    obtain ⟨a, _, ha, hs, rfl⟩ := List.forall₂_cons_left_iff.mp hv
    obtain ⟨s, _, hs, hnil, rfl⟩ := List.forall₂_cons_left_iff.mp hs
    obtain rfl := List.forall₂_nil_left_iff.mp hnil
    rw [List.append_nil]
    exact ⟨cueShape_save hu hb hv hne hb', head?_of_spells hsave hu⟩

theorem mem_cueWords_iff : w ∈ cueWords.language ↔
    (∃ ps ∈ latinCues, w ∈ (all ps).language) ∨ w ∈ (all koreanCue).language := by
  rw [cueWords, mem_language_any]
  simp only [List.map_append, List.mem_append, List.mem_map, List.map_cons, List.map_nil, List.mem_singleton,
    or_and_right, exists_or, exists_exists_and_eq_and, exists_eq_left]

theorem cueShape_of_mem (h : w ∈ cueWords.language) : CueShape w := by
  obtain ⟨ps, hps, h⟩ | h := mem_cueWords_iff.mp h
  · exact (cueShape_latin hps h).1
  · exact (cueShape_korean h).1

/-- No words that ask for a file go on with a character of names where others end. -/
theorem not_mem_of_append (hw : w ∈ cueWords.language) (hc : isTaken c = true) : w ++ c :: v ∉ cueWords.language := by
  intro hlonger
  obtain ⟨⟨d, u, rfl, -, hcount⟩, -, -⟩ := cueShape_of_mem hw
  obtain ⟨⟨d', u', heq, -, hcount'⟩, -, -⟩ := cueShape_of_mem hlonger
  obtain ⟨rfl, -⟩ := List.cons.inj heq
  rw [List.countP_append, hcount, List.countP_cons_of_pos hc] at hcount'
  omega

/-! ## Where a cue matches -/

/-- Words that ask for a file, behind a given character: but for the Korean ones, they begin where a word does. -/
def Cue (prev : Option Char) (w : List Char) : Prop :=
  w ∈ cueWords.language ∧ (prev.any isWord = false ∨ w.head? = some '파')

theorem isPlain_cues : ∀ ps ∈ latinCues ++ [koreanCue], (all ps).isPlain = true :=
  List.all_eq_true.mp (by decide)

/-- Where a word begins, there is an edge. -/
theorem atWordEdge_of_begins {s : Cursor} (hword : w.head?.any isWord = true) (hw : w <+: s.after) :
    s.atWordEdge isWord true = true ↔ s.before.head?.any isWord = false := by
  obtain ⟨rest, hrest⟩ := hw
  obtain ⟨c, v, rfl⟩ : ∃ c v, w = c :: v := by
    cases w with
    | nil => cases hword
    | cons c v => exact ⟨c, v, rfl⟩
  have hc : isWord c = true := hword
  rw [Cursor.atWordEdge_true, ← hrest]
  simp [hc]

/-- The pattern matches the words where they stand, the Latin ones at the beginning of a word. -/
theorem mem_ways_cue {s t : Cursor} :
    t ∈ cue.ways s ↔ ∃ w, Cue s.before.head? w ∧ w <+: s.after ∧ t = s.advance w.length := by
  have hplain := isPlain_cues
  rw [List.forall_mem_append] at hplain
  have hways : t ∈ cue.ways s ↔ (∃ ps ∈ latinCues, s.atWordEdge isWord true = true ∧ t ∈ (all ps).ways s) ∨
      t ∈ (all koreanCue).ways s := by
    rw [cue_eq, mem_ways_any]
    simp only [List.mem_append, List.mem_map, List.mem_singleton, or_and_right, exists_or, exists_exists_and_eq_and,
      exists_eq_left, mem_ways_all_cons, mem_ways_edge, and_assoc, exists_and_left]
  rw [hways]
  constructor
  · rintro (⟨ps, hps, hedge, ht⟩ | ht)
    · obtain ⟨w, hw, hhere, rfl⟩ := (mem_ways_iff (hplain.1 ps hps)).mp ht
      have hbefore := (atWordEdge_of_begins (cueShape_latin hps hw).2.1 hhere).mp hedge
      exact ⟨w, ⟨mem_cueWords_iff.mpr (.inl ⟨ps, hps, hw⟩), .inl hbefore⟩, hhere, rfl⟩
    · obtain ⟨w, hw, hhere, rfl⟩ := (mem_ways_iff (hplain.2 koreanCue List.mem_cons_self)).mp ht
      exact ⟨w, ⟨mem_cueWords_iff.mpr (.inr hw), .inr (cueShape_korean hw).2⟩, hhere, rfl⟩
  · rintro ⟨w, ⟨hw, hbegins⟩, hhere, rfl⟩
    obtain ⟨ps, hps, hw⟩ | hw := mem_cueWords_iff.mp hw
    · obtain ⟨-, hword, hlatin⟩ := cueShape_latin hps hw
      have hedge := (atWordEdge_of_begins hword hhere).mpr (hbegins.resolve_right hlatin)
      exact .inl ⟨ps, hps, hedge, (mem_ways_iff (hplain.1 ps hps)).mpr ⟨w, hw, hhere, rfl⟩⟩
    · exact .inr ((mem_ways_iff (hplain.2 koreanCue List.mem_cons_self)).mpr ⟨w, hw, hhere, rfl⟩)

end RiskGauge.FileHint
