import Mathlib.Computability.Language
import Mathlib.Data.List.Forall2
import RiskGauge.Proofs.Pattern.Ways

/-!
# The language of a pattern

A pattern that looks at nothing but the characters that it takes (`Pattern.isPlain`) has a language: the texts that it
can take. It matches at a place exactly the texts of its language that follow there, whatever stands around them
(`mem_ways_iff`).
-/

namespace RiskGauge.Pattern

variable {p q : Pattern} {s t : Cursor} {w : List Char}

/-- Characters in a row, alternatives and parts that may be missing. -/
def isPlain : Pattern → Bool
  | empty | one _ | span .. => true
  | seq p q | either p q => p.isPlain && q.isPlain
  | loop p 0 (some 1) false => p.isPlain
  | _ => false

/-- The texts that a plain pattern takes. -/
def language : Pattern → Language Char
  | empty => 1
  | one test => {w : List Char | ∃ c, w = [c] ∧ test c = true}
  | span test least most _ =>
    {w : List Char | least ≤ w.length ∧ (∀ n ∈ most, w.length ≤ n) ∧ ∀ c ∈ w, test c = true}
  | seq p q => p.language * q.language
  | either p q => p.language + q.language
  | loop p 0 (some 1) false => p.language + 1
  | _ => 0

/-! ## Texts of a language -/

theorem mem_language_one {test : Char → Bool} : w ∈ (one test).language ↔ ∃ c, w = [c] ∧ test c = true :=
  Iff.rfl

theorem mem_language_many {test : Char → Bool} : w ∈ (many test).language ↔ ∀ c ∈ w, test c = true := by
  show (0 ≤ w.length ∧ (∀ n ∈ (none : Option Nat), w.length ≤ n) ∧ ∀ c ∈ w, test c = true) ↔ _
  simp

theorem mem_language_some1 {test : Char → Bool} : w ∈ (some1 test).language ↔ w ≠ [] ∧ ∀ c ∈ w, test c = true := by
  show (1 ≤ w.length ∧ (∀ n ∈ (none : Option Nat), w.length ≤ n) ∧ ∀ c ∈ w, test c = true) ↔ _
  simp [Nat.one_le_iff_ne_zero]

theorem mem_language_either : w ∈ (either p q).language ↔ w ∈ p.language ∨ w ∈ q.language :=
  Iff.rfl

theorem mem_language_optional : w ∈ (optional p).language ↔ w ∈ p.language ∨ w = [] :=
  Iff.rfl

@[simp] theorem mem_language_all_nil : w ∈ (all []).language ↔ w = [] :=
  Iff.rfl

theorem mem_language_all_cons {ps : List Pattern} :
    w ∈ (all (p :: ps)).language ↔ ∃ u ∈ p.language, ∃ v ∈ (all ps).language, u ++ v = w :=
  Iff.rfl

theorem mem_language_any {ps : List Pattern} : w ∈ (any ps).language ↔ ∃ p ∈ ps, w ∈ p.language := by
  fun_induction any ps with
  | case1 => simp [mem_language_one]
  | case2 p => simp
  | case3 p ps hne ih => rw [mem_language_either, ih, List.exists_mem_cons_iff]

/-- A text compared character by character. -/
theorem mem_language_textBy {same : Char → Char → Bool} {cs : List Char} :
    w ∈ (textBy same cs).language ↔ List.Forall₂ (fun c d => same c d = true) cs w := by
  induction cs generalizing w with
  | nil => simp [textBy]
  | cons c cs ih =>
    have hcons : w ∈ (textBy same (c :: cs)).language ↔
        ∃ u ∈ (one (same c)).language, ∃ v ∈ (textBy same cs).language, u ++ v = w := Iff.rfl
    simp only [hcons, mem_language_one, ih, List.forall₂_cons_left_iff]
    constructor
    · rintro ⟨u, ⟨d, rfl, hd⟩, v, hv, rfl⟩
      exact ⟨d, v, hd, hv, rfl⟩
    · rintro ⟨d, v, hd, hv, rfl⟩
      exact ⟨[d], ⟨d, rfl, hd⟩, v, hv, rfl⟩

theorem mem_language_char {c : Char} : w ∈ (char c).language ↔ w = [c] := by
  simp [char, mem_language_one]

theorem mem_language_exactly {word : String} : w ∈ (exactly word).language ↔ w = word.toList := by
  rw [exactly, mem_language_textBy]
  simp only [beq_iff_eq, List.forall₂_eq_eq_eq]
  exact eq_comm

/-! ## Matches -/

theorem take_spanLength_iff {test : Char → Bool} {most : Option Nat} {text : List Char} {n : Nat} :
    n ≤ Cursor.spanLength test most text ↔
      n ≤ text.length ∧ (∀ k ∈ most, n ≤ k) ∧ ∀ c ∈ text.take n, test c = true := by
  have htake : ∀ cs : List Char, n ≤ (cs.takeWhile test).length ↔ n ≤ cs.length ∧ ∀ c ∈ cs.take n, test c = true := by
    intro cs
    induction cs generalizing n with
    | nil => simp
    | cons c cs ih =>
      cases n with
      | zero => simp
      | succ n =>
        by_cases hc : test c = true
        · simp [hc, ih]
        · simp [hc]
  cases most with
  | none => simp [Cursor.spanLength, htake]
  | some k =>
    simp only [Cursor.spanLength, htake, List.length_take, Option.mem_some_iff, forall_eq', List.take_take]
    constructor
    · rintro ⟨hn, hall⟩
      have hmin : min n k = n := by omega
      rw [hmin] at hall
      exact ⟨by omega, by omega, hall⟩
    · rintro ⟨hn, hk, hall⟩
      have hmin : min n k = n := by omega
      rw [hmin]
      exact ⟨by omega, hall⟩

/-- A plain pattern matches at a place the texts of its language that follow there. -/
theorem mem_ways_iff (hp : p.isPlain = true) :
    t ∈ p.ways s ↔ ∃ w ∈ p.language, w <+: s.after ∧ t = s.advance w.length := by
  induction p generalizing s t with
  | empty =>
    have hways : t ∈ empty.ways s ↔ t = s := mem_ways_all_nil
    have hlanguage : ∀ w : List Char, w ∈ empty.language ↔ w = [] := fun _ => Iff.rfl
    simp [hways, hlanguage]
  | one test =>
    rw [mem_ways_one]
    simp only [mem_language_one]
    constructor
    · rintro ⟨⟨c, hc, htest⟩, rfl⟩
      obtain ⟨rest, hrest⟩ := List.head?_eq_some_iff.mp hc
      exact ⟨[c], ⟨c, rfl, htest⟩, ⟨rest, hrest.symm⟩, rfl⟩
    · rintro ⟨w, ⟨c, rfl, htest⟩, ⟨rest, hrest⟩, rfl⟩
      exact ⟨⟨c, by rw [← hrest]; rfl, htest⟩, rfl⟩
  | span test least most lazy =>
    have hlanguage : ∀ w : List Char, w ∈ (span test least most lazy).language ↔
        least ≤ w.length ∧ (∀ n ∈ most, w.length ≤ n) ∧ ∀ c ∈ w, test c = true := fun _ => Iff.rfl
    simp only [mem_ways_span, take_spanLength_iff, hlanguage]
    constructor
    · rintro ⟨n, hleast, ⟨hn, hmost, hall⟩, rfl⟩
      have hlength : (s.after.take n).length = n := List.length_take_of_le hn
      exact ⟨s.after.take n, by rw [hlength]; exact ⟨hleast, hmost, hall⟩, List.take_prefix .., by rw [hlength]⟩
    · rintro ⟨w, ⟨hleast, hmost, hall⟩, hw, rfl⟩
      exact ⟨w.length, hleast, ⟨hw.length_le, hmost, by rwa [← List.prefix_iff_eq_take.mp hw]⟩, rfl⟩
  | seq p q ihp ihq =>
    obtain ⟨hp, hq⟩ : p.isPlain = true ∧ q.isPlain = true := by simpa [isPlain] using hp
    simp only [mem_ways_seq, ihp hp, ihq hq]
    constructor
    · rintro ⟨_, ⟨u, hu, hprefix, rfl⟩, v, hv, hprefix', rfl⟩
      obtain ⟨rest, hrest⟩ := hprefix
      rw [Cursor.advance_after, ← hrest, List.drop_left] at hprefix'
      refine ⟨u ++ v, ⟨u, hu, v, hv, rfl⟩, ?_, ?_⟩
      · rw [← hrest]
        exact (List.prefix_append_right_inj u).mpr hprefix'
      · rw [Cursor.advance_advance, List.length_append]
    · rintro ⟨_, ⟨u, hu, v, hv, rfl⟩, ⟨rest, hrest⟩, rfl⟩
      refine ⟨_, ⟨u, hu, ⟨v ++ rest, by rw [← hrest, List.append_assoc]⟩, rfl⟩, v, hv, ?_, ?_⟩
      · rw [Cursor.advance_after, ← hrest, List.append_assoc, List.drop_left]
        exact List.prefix_append v rest
      · rw [Cursor.advance_advance, List.length_append]
  | either p q ihp ihq =>
    obtain ⟨hp, hq⟩ : p.isPlain = true ∧ q.isPlain = true := by simpa [isPlain] using hp
    simp only [mem_ways_either, ihp hp, ihq hq, mem_language_either, or_and_right, exists_or]
  | loop p least most lazy ih =>
    -- of the repeated patterns, only those that are made once or not at all are plain
    match least, most, lazy with
    | 0, some 1, false =>
      have hp : p.isPlain = true := hp
      have hways : t ∈ (loop p 0 (some 1) false).ways s ↔ t ∈ p.ways s ∨ t = s := mem_ways_optional
      have hlanguage : ∀ w : List Char, w ∈ (loop p 0 (some 1) false).language ↔ w ∈ p.language ∨ w = [] :=
        fun _ => Iff.rfl
      simp [hways, hlanguage, ih hp, or_and_right, exists_or]
    | 0, some 1, true | 0, some 0, _ | 0, some (_ + 2), _ | 0, none, _ | _ + 1, _, _ => cases hp
  | place | seize | group | once | ahead | behind | again | ifGroup => cases hp

end RiskGauge.Pattern
