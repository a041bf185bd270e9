import RiskGauge.Proofs.Pattern.InLine
import RiskGauge.Proofs.Pattern.Language

/-!
# Matches in longer texts

A pattern that takes characters of any kind, and looks at nothing but the edges of words, keeps its matches when lines
are added to a text (`Pattern.keepsMatches`): in the longer text it can match in every way in which it does in the text
(`exists_mem_ways_within`, `occursIn_feed`). There may be new matches that run over the seam. A plain pattern that takes
no line feed (`Pattern.takesNoFeed`) has none of these, so it occurs in two texts with a line feed between them if it
does in one of them (`occursIn_feed_iff`).
-/

namespace RiskGauge

namespace Cursor

variable {front back : List Char} {s : Cursor} {n : Nat}

theorem within_after (front back : List Char) (s : Cursor) : (s.within front back).after = s.after ++ back := rfl

theorem within_advance (hs : s.Sound) (hn : n ≤ s.after.length) :
    (s.advance n).within front back = (s.within front back).advance n := by
  have hleft : s.left - n + back.length = s.left + back.length - n := by
    rw [Sound] at hs
    omega
  simp only [advance, within, List.take_append_of_le_length hn, List.drop_append_of_le_length hn, hleft,
    List.append_assoc]

end Cursor

namespace Pattern

open Cursor (ofIndex Broken broken_nil broken_feed)

variable {p : Pattern} {s t : Cursor} {front back text : List Char}

/-! ## No match is lost -/

/-- Characters in a row, alternatives and parts that may be missing, and edges of words to which line feeds do not
belong. -/
def keepsMatches : Pattern → Bool
  | empty | one _ | span .. => true
  | place (.wordEdge word true) => !word '\n'
  | seq p q | either p q => p.keepsMatches && q.keepsMatches
  | loop p 0 (some 1) false => p.keepsMatches
  | _ => false

/-- In a longer text, the pattern matches the characters that it matches in a part of it between line feeds. -/
theorem exists_mem_ways_within (hp : p.keepsMatches = true) (hfront : Broken front) (hback : Broken back)
    (hs : s.Sound) (h : t ∈ p.ways s) :
    ∃ n ≤ s.after.length, t = s.advance n ∧ (s.within front back).advance n ∈ p.ways (s.within front back) := by
  -- the number of characters is part of the induction: it tells where the second of two patterns goes on
  induction p generalizing s t with
  | empty => exact ⟨0, Nat.zero_le _, List.mem_singleton.mp h, List.mem_singleton_self _⟩
  | one test =>
    obtain ⟨⟨c, hc, htest⟩, rfl⟩ := mem_ways_one.mp h
    refine ⟨1, List.length_pos_of_mem (List.mem_of_head? hc), rfl, mem_ways_one.mpr ⟨⟨c, ?_, htest⟩, rfl⟩⟩
    rw [Cursor.within_after, List.head?_append, hc, Option.some_or]
  | span test least most lazy =>
    obtain ⟨n, hleast, hn, rfl⟩ := mem_ways_span.mp h
    obtain ⟨hlength, hmost, hall⟩ := take_spanLength_iff.mp hn
    refine ⟨n, hlength, rfl, mem_ways_span.mpr ⟨n, hleast, take_spanLength_iff.mpr ⟨?_, hmost, ?_⟩, rfl⟩⟩
    · rw [Cursor.within_after, List.length_append]
      omega
    · rwa [Cursor.within_after, List.take_append_of_le_length hlength]
  | place cond =>
    cases cond with
    | wordEdge word edge =>
      cases edge with
      | true =>
        have hword : word '\n' = false := by simpa [keepsMatches] using hp
        obtain ⟨hedge, rfl⟩ := mem_ways_place.mp h
        have hlonger := (Cursor.atWordEdge_within hfront hback hword).trans hedge
        exact ⟨0, Nat.zero_le _, rfl, mem_ways_place.mpr ⟨hlonger, rfl⟩⟩
      | false => cases hp
    | textStart | lineStart | textEnd | lastLineEnd | lineEnd => cases hp
  | seq p q ihp ihq =>
    obtain ⟨hp, hq⟩ : p.keepsMatches = true ∧ q.keepsMatches = true := by simpa [keepsMatches] using hp
    obtain ⟨u, hu, ht⟩ := mem_ways_seq.mp h
    obtain ⟨m, hm, rfl, hfirst⟩ := ihp hp hs hu
    obtain ⟨n, hn, rfl, hsecond⟩ := ihq hq (hs.advance m) ht
    rw [Cursor.within_advance hs hm, Cursor.advance_advance] at hsecond
    rw [Cursor.advance_after, List.length_drop] at hn
    exact ⟨m + n, by omega, Cursor.advance_advance .., mem_ways_seq.mpr ⟨_, hfirst, hsecond⟩⟩
  | either p q ihp ihq =>
    obtain ⟨hp, hq⟩ : p.keepsMatches = true ∧ q.keepsMatches = true := by simpa [keepsMatches] using hp
    obtain h | h := mem_ways_either.mp h
    · obtain ⟨n, hn, ht, hmem⟩ := ihp hp hs h
      exact ⟨n, hn, ht, mem_ways_either.mpr (.inl hmem)⟩
    · obtain ⟨n, hn, ht, hmem⟩ := ihq hq hs h
      exact ⟨n, hn, ht, mem_ways_either.mpr (.inr hmem)⟩
  | loop p least most lazy ih =>
    match least, most, lazy with
    | 0, some 1, false =>
      obtain h | rfl := mem_ways_optional.mp h
      · obtain ⟨n, hn, ht, hmem⟩ := ih hp hs h
        exact ⟨n, hn, ht, mem_ways_optional.mpr (.inl hmem)⟩
      · exact ⟨0, Nat.zero_le _, rfl, mem_ways_optional.mpr (.inr rfl)⟩
    | 0, some 1, true | 0, some 0, _ | 0, some (_ + 2), _ | 0, none, _ | _ + 1, _, _ => cases hp
  | seize | group | once | ahead | behind | again | ifGroup => cases hp

theorem occursIn_within (hp : p.keepsMatches = true) (hfront : Broken front) (hback : Broken back)
    (h : p.occursIn text = true) : p.occursIn (front.reverse ++ (text ++ back)) = true := by
  obtain ⟨n, hn, hways⟩ := occursIn_iff.mp h
  obtain ⟨t, ht⟩ := List.exists_mem_of_ne_nil _ hways
  obtain ⟨m, -, -, hmem⟩ := exists_mem_ways_within hp hfront hback (Cursor.sound_ofIndex text n) ht
  rw [Cursor.ofIndex_within front back text hn] at hmem
  refine occursIn_iff.mpr ⟨front.length + n, ?_, List.ne_nil_of_mem hmem⟩
  simp only [List.length_append, List.length_reverse]
  omega

/-- What occurs in one of two texts occurs in both of them with a line feed between them. -/
theorem occursIn_feed (hp : p.keepsMatches = true) {c t : List Char}
    (h : p.occursIn c = true ∨ p.occursIn t = true) : p.occursIn (c ++ '\n' :: t) = true := by
  obtain h | h := h
  · exact occursIn_within hp broken_nil (broken_feed t) h
  · have hlonger := occursIn_within hp (broken_feed c.reverse) broken_nil h
    rwa [List.reverse_cons, List.reverse_reverse, List.append_nil, List.append_assoc, List.singleton_append] at hlonger

/-! ## No match is gained -/

/-- A plain pattern occurs in a text if a text of its language does. -/
theorem occursIn_iff_infix (hp : p.isPlain = true) : p.occursIn text = true ↔ ∃ w ∈ p.language, w <:+: text := by
  rw [occursIn_iff]
  constructor
  · rintro ⟨n, -, hways⟩
    obtain ⟨t, ht⟩ := List.exists_mem_of_ne_nil _ hways
    obtain ⟨w, hw, hhere, -⟩ := (mem_ways_iff hp).mp ht
    exact ⟨w, hw, hhere.isInfix.trans (List.drop_suffix n text).isInfix⟩
  · rintro ⟨w, hw, a, b, rfl⟩
    have hhere : w <+: (ofIndex (a ++ w ++ b) a.length).after := by
      rw [Cursor.ofIndex_after, List.append_assoc, List.drop_left]
      exact List.prefix_append w b
    refine ⟨a.length, ?_, List.ne_nil_of_mem ((mem_ways_iff hp).mpr ⟨w, hw, hhere, rfl⟩)⟩
    simp only [List.length_append]
    omega

/-- No character that the pattern takes is a line feed. -/
def takesNoFeed : Pattern → Bool
  | empty => true
  | one test | span test _ _ _ => !test '\n'
  | seq p q | either p q => p.takesNoFeed && q.takesNoFeed
  | loop p 0 (some 1) false => p.takesNoFeed
  | _ => false

theorem feed_not_mem_of_language {w : List Char} (hp : p.takesNoFeed = true) (hw : w ∈ p.language) : '\n' ∉ w := by
  induction p generalizing w with
  | empty =>
    obtain rfl : w = [] := hw
    exact List.not_mem_nil
  | one test =>
    have htest : test '\n' = false := by simpa [takesNoFeed] using hp
    obtain ⟨c, rfl, hc⟩ := mem_language_one.mp hw
    rw [List.mem_singleton]
    rintro rfl
    rw [htest] at hc
    cases hc
  | span test least most lazy =>
    have htest : test '\n' = false := by simpa [takesNoFeed] using hp
    obtain ⟨-, -, hall⟩ := hw
    intro hfeed
    have hpasses := hall _ hfeed
    rw [htest] at hpasses
    cases hpasses
  | seq p q ihp ihq =>
    obtain ⟨hp, hq⟩ : p.takesNoFeed = true ∧ q.takesNoFeed = true := by simpa [takesNoFeed] using hp
    obtain ⟨u, hu, v, hv, rfl⟩ := hw
    rw [List.mem_append, not_or]
    exact ⟨ihp hp hu, ihq hq hv⟩
  | either p q ihp ihq =>
    obtain ⟨hp, hq⟩ : p.takesNoFeed = true ∧ q.takesNoFeed = true := by simpa [takesNoFeed] using hp
    exact (mem_language_either.mp hw).elim (ihp hp) (ihq hq)
  | loop p least most lazy ih =>
    match least, most, lazy with
    | 0, some 1, false =>
      obtain hw | rfl := mem_language_optional.mp hw
      · exact ih hp hw
      · exact List.not_mem_nil
    | 0, some 1, true | 0, some 0, _ | 0, some (_ + 2), _ | 0, none, _ | _ + 1, _, _ => cases hp
  | place | seize | group | once | ahead | behind | again | ifGroup => cases hp

theorem prefix_feed_iff {w c t : List Char} (hw : '\n' ∉ w) : w <+: c ++ '\n' :: t ↔ w <+: c := by
  constructor
  · intro h
    obtain hle | ⟨rest, rfl⟩ := List.prefix_or_prefix_of_prefix h (List.prefix_append c ('\n' :: t))
    · exact hle
    · rw [List.prefix_append_right_inj] at h
      cases rest with
      | nil => rw [List.append_nil]
      | cons d rest =>
        obtain rfl : d = '\n' := (List.cons_prefix_cons.mp h).1
        exact absurd (List.mem_append_right c List.mem_cons_self) hw
  · exact fun h => h.trans (List.prefix_append c ('\n' :: t))

/-- A text without line feeds is a part of one of two texts if it is one of both with a line feed between them. -/
theorem infix_feed_iff {w c t : List Char} (hw : '\n' ∉ w) : w <:+: c ++ '\n' :: t ↔ w <:+: c ∨ w <:+: t := by
  induction c with
  | nil =>
    have hnil : w <+: '\n' :: t ↔ w <+: [] := prefix_feed_iff (c := []) hw
    rw [List.nil_append, List.infix_cons_iff, hnil, List.prefix_nil, List.infix_nil]
  | cons d c ih =>
    have hcons : w <+: d :: (c ++ '\n' :: t) ↔ w <+: d :: c := prefix_feed_iff (c := d :: c) hw
    rw [List.cons_append, List.infix_cons_iff, List.infix_cons_iff, hcons, ih, or_assoc]

/-- A plain pattern that takes no line feed occurs in two texts with a line feed between them if it does in one of
them. -/
theorem occursIn_feed_iff (hplain : p.isPlain = true) (hfeed : p.takesNoFeed = true) (c t : List Char) :
    p.occursIn (c ++ '\n' :: t) = (p.occursIn c || p.occursIn t) := by
  rw [Bool.eq_iff_iff, Bool.or_eq_true, occursIn_iff_infix hplain, occursIn_iff_infix hplain, occursIn_iff_infix hplain,
    ← exists_or]
  refine exists_congr fun w => ?_
  rw [← and_or_left]
  exact and_congr_right fun hw => infix_feed_iff (feed_not_mem_of_language hfeed hw)

end Pattern

end RiskGauge
