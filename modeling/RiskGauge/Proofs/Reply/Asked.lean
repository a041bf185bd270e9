import Mathlib.Data.List.TakeWhile
import RiskGauge.Proofs.Reply.Cue

/-!
# The names that a text asks for

`Asks` reads a text from left to right: where words that ask for a file stand in front of a name, the name is noted and
the reading goes on behind it, and elsewhere it goes on with the next character. The scan for hints finds the names
that are noted (`Asks.asked_eq`).

A text that ends in a blank is read on its own whatever follows, but for one thing: words at its end that still wait for
a name take the next word for it (`asked_split`), even a word that asks for a file itself.
-/

namespace RiskGauge.FileHint

open Pattern
open Text (isBlank isWord)

variable {prev : Option Char} {text w run rest : List Char} {names more : List (List Char)} {b c : Char}

/-! ## Reading names -/

/-- A name with all the characters of names that there are. -/
structure IsRun (run rest : List Char) : Prop where
  ne_nil : run ≠ []
  taken : ∀ c ∈ run, isTaken c = true
  stops : ∀ c ∈ rest.head?, isTaken c = false

/-- The text behind a given character begins with words that ask for a file and a name. -/
def AsksHere (prev : Option Char) (text : List Char) : Prop :=
  ∃ w run rest, text = w ++ (run ++ rest) ∧ Cue prev w ∧ IsRun run rest

/-- The text behind a given character asks for these names, one after the other. -/
inductive Asks : Option Char → List Char → List (List Char) → Prop
  | nil (prev : Option Char) : Asks prev [] []
  | skip {prev : Option Char} {c : Char} {text : List Char} {names : List (List Char)} :
    ¬ AsksHere prev (c :: text) → Asks (some c) text names → Asks prev (c :: text) names
  | take {prev : Option Char} {w run rest : List Char} {names : List (List Char)} :
    Cue prev w → IsRun run rest → Asks run.getLast? rest names → Asks prev (w ++ (run ++ rest)) (run :: names)

theorem IsRun.takeWhile_eq (h : IsRun run rest) : (run ++ rest).takeWhile isTaken = run := by
  rw [List.takeWhile_append_of_pos h.taken]
  have hrest : rest.takeWhile isTaken = [] := by
    cases rest with
    | nil => rfl
    | cons c rest => exact List.takeWhile_cons_of_neg (by simp [h.stops c rfl])
  rw [hrest, List.append_nil]

theorem isRun_takeWhile (hc : isTaken c = true) :
    IsRun ((c :: text).takeWhile isTaken) ((c :: text).dropWhile isTaken) := by
  refine ⟨?_, fun d hd => List.mem_takeWhile_imp hd, fun d hd => ?_⟩
  · rw [List.takeWhile_cons_of_pos hc]
    exact List.cons_ne_nil _ _
  · have hhead := List.head?_dropWhile_not isTaken (c :: text)
    rw [Option.mem_def.mp hd] at hhead
    simpa using hhead

theorem IsRun.append_stop {behind : List Char} (h : IsRun run rest) (hbehind : ∀ c ∈ behind.head?, isTaken c = false) :
    IsRun run (rest ++ behind) := by
  refine ⟨h.ne_nil, h.taken, ?_⟩
  cases rest with
  | nil => exact hbehind
  | cons c rest => exact h.stops

theorem Cue.ne_nil (h : Cue prev w) : w ≠ [] := by
  obtain ⟨⟨c, v, rfl, -⟩, -, -⟩ := cueShape_of_mem h.1
  exact List.cons_ne_nil c v

theorem Cue.asksHere (h : Cue prev w) (hc : isTaken c = true) : AsksHere prev (w ++ c :: rest) :=
  ⟨w, _, _, by rw [List.takeWhile_append_dropWhile], h, isRun_takeWhile hc⟩

theorem eq_of_begins {w' run' rest' : List Char} (heq : w ++ (run ++ rest) = w' ++ (run' ++ rest'))
    (hw : w ∈ cueWords.language) (hw' : w' ∈ cueWords.language) (hrun : IsRun run rest) (h : w <+: w') : w = w' := by
  obtain ⟨v, rfl⟩ := h
  cases v with
  | nil => rw [List.append_nil]
  | cons c v =>
    obtain ⟨d, run, rfl⟩ := List.exists_cons_of_ne_nil hrun.ne_nil
    rw [List.append_assoc] at heq
    obtain ⟨rfl, -⟩ := List.cons.inj (List.append_cancel_left heq)
    exact absurd hw' (not_mem_of_append hw (hrun.taken d List.mem_cons_self))

/-- A text begins with words that ask for a file and a name in one way only. -/
theorem split_unique {w' run' rest' : List Char} (heq : w ++ (run ++ rest) = w' ++ (run' ++ rest'))
    (hw : w ∈ cueWords.language) (hw' : w' ∈ cueWords.language) (hrun : IsRun run rest) (hrun' : IsRun run' rest') :
    w = w' ∧ run = run' ∧ rest = rest' := by
  have hsame : w = w' := by
    obtain h | h := List.prefix_or_prefix_of_prefix (List.prefix_append w (run ++ rest))
      (heq ▸ List.prefix_append w' (run' ++ rest'))
    · exact eq_of_begins heq hw hw' hrun h
    · exact (eq_of_begins heq.symm hw' hw hrun' h).symm
  subst hsame
  have hnames := List.append_cancel_left heq
  have hsame : run = run' := by rw [← hrun.takeWhile_eq, hnames, hrun'.takeWhile_eq]
  subst hsame
  exact ⟨rfl, rfl, List.append_cancel_left hnames⟩

theorem exists_asks (prev : Option Char) (text : List Char) : ∃ names, Asks prev text names := by
  induction hn : text.length using Nat.strong_induction_on generalizing prev text with
  | h n ih =>
    by_cases hhere : AsksHere prev text
    · obtain ⟨w, run, rest, rfl, hcue, hrun⟩ := hhere
      have hlength := List.length_pos_iff.mpr hcue.ne_nil
      simp only [List.length_append] at hn
      obtain ⟨names, hnames⟩ := ih rest.length (by omega) run.getLast? rest rfl
      exact ⟨run :: names, .take hcue hrun hnames⟩
    · cases text with
      | nil => exact ⟨[], .nil prev⟩
      | cons c text =>
        obtain ⟨names, hnames⟩ := ih text.length (by rw [← hn]; exact Nat.lt_succ_self _) (some c) text rfl
        exact ⟨names, .skip hhere hnames⟩

/-! ## The scan for hints -/

/-- The place behind words that ask for a file and a name. -/
def behindName (s : Cursor) (w run : List Char) : Cursor :=
  (((s.advance w.length).openGroup 1).advance run.length).closeGroup 1

section BehindName

variable {s : Cursor} (htext : s.after = w ++ (run ++ rest))

include htext

theorem advance_after_cue : (s.advance w.length).after = run ++ rest := by
  rw [Cursor.advance_after, htext, List.drop_left]

theorem behindName_after : (behindName s w run).after = rest := by
  show (s.advance w.length).after.drop run.length = rest
  rw [advance_after_cue htext, List.drop_left]

theorem head?_before_behindName (hne : run ≠ []) : (behindName s w run).before.head? = run.getLast? := by
  show (((s.advance w.length).after.take run.length).reverse ++ _).head? = run.getLast?
  rw [advance_after_cue htext, List.take_left, List.head?_append, List.head?_reverse, List.getLast?_eq_some_getLast hne]
  rfl

theorem left_behindName (hs : s.Sound) : (behindName s w run).left = rest.length := by
  have hlengths := congrArg List.length htext
  have hsound : s.left = s.after.length := hs
  show s.left - w.length - run.length = rest.length
  simp only [List.length_append] at hlengths
  omega

theorem group?_behindName (hs : s.Sound) : (behindName s w run).group? 1 = some run := by
  have hafter := advance_after_cue htext
  have hclosed := (hs.advance w.length).group?_closeGroup 1 (k := run.length)
    (by rw [hafter, List.length_append]; exact Nat.le_add_right ..)
  rwa [hafter, List.take_left] at hclosed

end BehindName

/-- The longest name is tried first. -/
theorem head?_ways_name (s : Cursor) : ((group 1 (some1 isTaken)).ways s).head? =
    if s.after.takeWhile isTaken = [] then none
    else some (((s.openGroup 1).advance (s.after.takeWhile isTaken).length).closeGroup 1) := by
  have hways : (group 1 (some1 isTaken)).ways s =
      ((((s.openGroup 1).span isTaken none).drop 1).reverse).map (·.closeGroup 1) := rfl
  have hlength : Cursor.spanLength isTaken none (s.openGroup 1).after = (s.after.takeWhile isTaken).length := rfl
  rw [hways, Cursor.span_eq, hlength, List.head?_map, List.head?_reverse, List.getLast?_drop, List.getLast?_map,
    List.length_map, List.length_range, List.getLast?_range]
  cases s.after.takeWhile isTaken with
  | nil => rfl
  | cons c run => simp

/-- What is found at a place is the words that ask for a file and the name behind them. -/
theorem exists_of_head?_hint {s t : Cursor} (h : (hint.ways s).head? = some t) :
    ∃ w run rest, s.after = w ++ (run ++ rest) ∧ Cue s.before.head? w ∧ IsRun run rest ∧ t = behindName s w run := by
  have hways : hint.ways s = (cue.ways s).flatMap (group 1 (some1 isTaken)).ways := rfl
  rw [hways, List.head?_flatMap] at h
  obtain ⟨u, hu, hhead⟩ := List.exists_of_findSome?_eq_some h
  obtain ⟨w, hcue, ⟨behind, hbehind⟩, rfl⟩ := mem_ways_cue.mp hu
  have hafter : (s.advance w.length).after = behind := by rw [Cursor.advance_after, ← hbehind, List.drop_left]
  rw [head?_ways_name, hafter] at hhead
  cases behind with
  | nil => cases hhead
  | cons c behind =>
    by_cases hc : isTaken c = true
    · have hrun : IsRun ((c :: behind).takeWhile isTaken) ((c :: behind).dropWhile isTaken) := isRun_takeWhile hc
      rw [if_neg hrun.ne_nil] at hhead
      refine ⟨w, _, _, ?_, hcue, hrun, (Option.some.inj hhead).symm⟩
      rw [List.takeWhile_append_dropWhile, hbehind]
    · rw [List.takeWhile_cons_of_neg hc, if_pos rfl] at hhead
      cases hhead

theorem head?_hint_of_asksHere {s : Cursor} (hafter : s.after = w ++ (run ++ rest)) (hcue : Cue s.before.head? w)
    (hrun : IsRun run rest) : (hint.ways s).head? = some (behindName s w run) := by
  have hways : hint.ways s = (cue.ways s).flatMap (group 1 (some1 isTaken)).ways := rfl
  cases hhead : (hint.ways s).head? with
  | none =>
    rw [hways, List.head?_flatMap, List.findSome?_eq_none_iff] at hhead
    have hnone := hhead _ (mem_ways_cue.mpr ⟨w, hcue, ⟨run ++ rest, hafter.symm⟩, rfl⟩)
    rw [head?_ways_name, Cursor.advance_after, hafter, List.drop_left, hrun.takeWhile_eq, if_neg hrun.ne_nil] at hnone
    cases hnone
  | some t =>
    obtain ⟨w', run', rest', hafter', hcue', hrun', rfl⟩ := exists_of_head?_hint hhead
    obtain ⟨rfl, rfl, -⟩ := split_unique (hafter.symm.trans hafter') hcue.1 hcue'.1 hrun hrun'
    rfl

/-- The names behind the words in a text, with the dots at their ends. -/
def asked (text : List Char) : List (List Char) :=
  (hint.findAll text).map (·.group 1)

theorem length_asked (text : List Char) : (asked text).length = hint.count text :=
  List.length_map _

theorem candidates_eq (text : List Char) :
    candidates text = ((asked text).map dropDots).filter fun name => (extension? name).isSome := by
  rw [candidates, asked, List.map_map]
  rfl

theorem matchAt?_of_not_asksHere {s : Cursor} (h : ¬ AsksHere s.before.head? s.after) : hint.matchAt? s = none := by
  rw [matchAt?_eq_unmarked, Option.map_eq_none_iff]
  cases hhead : (hint.ways s.unmarked).head? with
  | none => rfl
  | some t =>
    obtain ⟨w, run, rest, hafter, hcue, hrun, -⟩ := exists_of_head?_hint hhead
    exact absurd ⟨w, run, rest, hafter, hcue, hrun⟩ h

/-- The scan finds the names that are read. -/
theorem Asks.map_group_findUpTo (h : Asks prev text names) {s : Cursor} (hs : s.Sound) (hprev : s.before.head? = prev)
    (htext : s.after = text) {k : Nat} (hk : text.length < k) : (hint.findUpTo k s).map (·.group 1) = names := by
  induction h generalizing s k with
  | nil prev =>
    have hhere : ¬ AsksHere s.before.head? s.after := by
      rintro ⟨w, run, rest, hafter, hcue, -⟩
      rw [htext] at hafter
      exact hcue.ne_nil (List.append_eq_nil_iff.mp hafter.symm).1
    rw [findUpTo_end htext (matchAt?_of_not_asksHere hhere)]
    rfl
  | @skip prev c text names hno _ ih =>
    rw [findUpTo_of_none htext (matchAt?_of_not_asksHere (by rwa [hprev, htext]))]
    have hnext := Cursor.advance_one htext
    exact ih (hs.advance 1) (by rw [hnext]; rfl) (by rw [hnext]) (Nat.lt_of_succ_lt hk)
  | @take prev w run rest names hcue hrun _ ih =>
    obtain ⟨k, rfl⟩ : ∃ k', k = k' + 1 := ⟨k - 1, by omega⟩
    have hhead : (hint.ways s.unmarked).head? = some (behindName s.unmarked w run) :=
      head?_hint_of_asksHere htext (hprev.symm ▸ hcue) hrun
    have hmatch : hint.matchAt? s = some ⟨s, behindName s.unmarked w run⟩ := by
      rw [matchAt?_eq_unmarked, hhead]
      rfl
    have htext' : s.unmarked.after = w ++ (run ++ rest) := htext
    have hs' : s.unmarked.Sound := hs
    have hpos := List.length_pos_iff.mpr hcue.ne_nil
    have hlengths : s.left = (w ++ (run ++ rest)).length := by rw [← htext]; exact hs
    simp only [List.length_append] at hlengths hk
    have hleft : (behindName s.unmarked w run).left < s.left := by
      rw [left_behindName htext' hs']
      omega
    rw [findUpTo_of_matchAt? hmatch hleft, List.map_cons, Found.group, group?_behindName htext' hs', Option.getD_some]
    have hsound : (behindName s.unmarked w run).Sound := by
      rw [Cursor.Sound, left_behindName htext' hs', behindName_after htext']
    rw [ih hsound (head?_before_behindName htext' hrun.ne_nil) (behindName_after htext') (by omega)]

theorem Asks.asked_eq (h : Asks none text names) : asked text = names :=
  h.map_group_findUpTo (Cursor.sound_ofText text) rfl rfl (Nat.lt_succ_self _)

/-! ## Texts that ask for nothing -/

theorem Asks.of_prev {prev' : Option Char} (h : Asks prev text names) (hprev : prev.any isWord = prev'.any isWord) :
    Asks prev' text names := by
  have hcue : ∀ w, Cue prev' w → Cue prev w := fun w hw => ⟨hw.1, by rw [hprev]; exact hw.2⟩
  cases h with
  | nil => exact .nil prev'
  | skip hno h =>
    refine .skip ?_ h
    rintro ⟨w, run, rest, heq, hw, hrun⟩
    exact hno ⟨w, run, rest, heq, hcue w hw, hrun⟩
  | take hw hrun h => exact .take ⟨hw.1, by rw [← hprev]; exact hw.2⟩ hrun h

/-- No words that ask for a file begin in the text. -/
theorem Asks.eq_nil (h : Asks (some c) text names) (hchain : (c :: text).IsChain NoCue) : names = [] := by
  generalize hprev : some c = prev at h
  induction h generalizing c with
  | nil => rfl
  | @skip prev d text names _ _ ih =>
    exact ih (List.isChain_cons.mp hchain).2 rfl
  | @take prev w run rest names hcue _ _ _ =>
    subst hprev
    obtain ⟨⟨d, v, rfl, hinitial, -⟩, -, -⟩ := cueShape_of_mem hcue.1
    obtain ⟨hword, hlatin⟩ := (List.isChain_cons.mp hchain).1 d rfl hinitial
    obtain hbegins | hbegins := hcue.2
    · rw [Option.any_some, hword] at hbegins
      cases hbegins
    · exact absurd (Option.some.inj hbegins) hlatin

/-- Words that ask for a file are not made of characters of names alone. -/
theorem Asks.eq_nil_of_taken (h : Asks prev text names) (htaken : ∀ c ∈ text, isTaken c = true) : names = [] := by
  induction h with
  | nil => rfl
  | skip _ _ ih => exact ih (List.forall_mem_cons.mp htaken).2
  | take hcue _ _ _ =>
    obtain ⟨c, hc, huntaken⟩ := (cueShape_of_mem hcue.1).untaken
    rw [htaken c (List.mem_append_left _ hc)] at huntaken
    cases huntaken

/-! ## Texts one after the other -/

/-- A text asks for no more with one more character that is not taken. -/
theorem AsksHere.of_concat (h : AsksHere prev (text ++ [b])) (hb : isTaken b = false) : AsksHere prev text := by
  obtain ⟨w, run, rest, heq, hcue, hrun⟩ := h
  obtain ⟨d, run, rfl⟩ := List.exists_cons_of_ne_nil hrun.ne_nil
  have hd := hrun.taken d List.mem_cons_self
  have hnot : d ≠ b := by
    rintro rfl
    rw [hd] at hb
    cases hb
  obtain ⟨v, rfl, hv⟩ | ⟨v, rfl, hv⟩ := List.append_eq_append_iff.mp heq
  · cases v with
    | nil => exact absurd (List.cons.inj hv).1.symm hnot
    | cons e v =>
      have hnil := congrArg List.length (List.cons.inj hv).2
      simp at hnil
  · cases v with
    | nil => exact absurd (List.cons.inj hv).1 hnot
    | cons e v =>
      obtain ⟨rfl, -⟩ := List.cons.inj hv
      exact hcue.asksHere hd

/-- A blank behind the text asks for nothing. -/
theorem Asks.concat_blank (h : Asks prev text names) (hb : isBlank b = true) : Asks prev (text ++ [b]) names := by
  have huntaken := (soft_of_blank hb).2
  induction h with
  | nil prev =>
    refine .skip (fun hhere => ?_) (.nil _)
    have hnone : AsksHere prev [] := hhere.of_concat huntaken
    obtain ⟨w, _, _, heq, hcue, -⟩ := hnone
    exact hcue.ne_nil (List.append_eq_nil_iff.mp heq.symm).1
  | skip hno _ ih => exact .skip (fun hhere => hno (AsksHere.of_concat hhere huntaken)) ih
  | @take prev w run rest names hcue hrun _ ih =>
    have hstop : ∀ c ∈ [b].head?, isTaken c = false := fun c hc => Option.some.inj hc ▸ huntaken
    rw [List.append_assoc, List.append_assoc]
    exact .take hcue (hrun.append_stop hstop) ih

/-- Words that ask for a file go on behind a blank with certain characters only. -/
theorem Cue.isFollower_of_append {v : List Char} (h : Cue prev (text ++ c :: v)) (hne : text ≠ [])
    (hblank : ∀ b ∈ text.getLast?, isBlank b = true) : isFollower c = true := by
  have hinside := (cueShape_of_mem h.1).inside
  obtain ⟨-, -, hlink⟩ := List.isChain_append.mp hinside
  have hlast := List.getLast?_eq_some_getLast hne
  exact (hlink _ hlast c rfl).2 (hblank _ hlast)

theorem not_asksHere_append (hno : ¬ AsksHere prev (c :: text)) (hcue : ¬ Cue prev (c :: text))
    (hblank : ∀ b ∈ (c :: text).getLast?, isBlank b = true) (hrest : ∀ d ∈ rest.head?, isFollower d = false) :
    ¬ AsksHere prev (c :: text ++ rest) := by
  rintro ⟨w, run, behind, heq, hw, hrun⟩
  obtain ⟨v, rfl, rfl⟩ | ⟨v, hv, hnames⟩ := List.append_eq_append_iff.mp heq
  · -- the words would go on behind the blank
    cases v with
    | nil => exact hcue (by simpa using hw)
    | cons d v =>
      have hfollower := hw.isFollower_of_append (List.cons_ne_nil c text) hblank
      rw [hrest d rfl] at hfollower
      cases hfollower
  · cases v with
    | nil => exact hcue (by rwa [hv, List.append_nil])
    | cons d v =>
      obtain ⟨e, run, rfl⟩ := List.exists_cons_of_ne_nil hrun.ne_nil
      obtain ⟨rfl, -⟩ := List.cons.inj hnames
      rw [hv] at hno
      exact hno (hw.asksHere (hrun.taken e List.mem_cons_self))

/-- A name that stands in front of a text that ends in a blank ends in front of it. -/
theorem IsRun.append_right (h : IsRun run rest) (hrest : rest ≠ []) (behind : List Char) :
    IsRun run (rest ++ behind) := by
  refine ⟨h.ne_nil, h.taken, fun c hc => h.stops c ?_⟩
  obtain ⟨d, rest, rfl⟩ := List.exists_cons_of_ne_nil hrest
  exact hc

theorem ne_nil_of_blank (hrun : IsRun run rest) (hblank : ∀ b ∈ (w ++ (run ++ rest)).getLast?, isBlank b = true) :
    rest ≠ [] := by
  rintro rfl
  have hlast := List.getLast?_eq_some_getLast hrun.ne_nil
  have hb := hblank (run.getLast hrun.ne_nil) (by simp [List.getLast?_append, hlast])
  have huntaken := (soft_of_blank hb).2
  rw [hrun.taken _ (List.getLast_mem hrun.ne_nil)] at huntaken
  cases huntaken

/-- A text that ends in a blank is read on its own, or it ends in words that still wait for a name. -/
theorem Asks.append (h : Asks prev text names) (hblank : ∀ b ∈ text.getLast?, isBlank b = true) :
    (∀ rest more, (∀ c ∈ rest.head?, isFollower c = false) → Asks (text.getLast?.or prev) rest more →
      Asks prev (text ++ rest) (names ++ more)) ∨
    (∃ front w, text = front ++ w ∧ w ∈ cueWords.language) ∧
      ∀ run rest more, IsRun run rest → (∀ c ∈ run.head?, isFollower c = false) → Asks run.getLast? rest more →
        Asks prev (text ++ (run ++ rest)) (names ++ run :: more) := by
  induction h with
  | nil prev => exact .inl fun rest more _ hmore => hmore
  | @skip prev c text names hno hread ih =>
    by_cases hcue : Cue prev (c :: text)
    · have hinside := (cueShape_of_mem hcue.1).inside
      obtain rfl := hread.eq_nil (hinside.imp fun _ _ h => h.1)
      exact .inr ⟨⟨[], c :: text, rfl, hcue.1⟩, fun run rest more hrun _ hmore => .take hcue hrun hmore⟩
    · have hblank' : ∀ b ∈ text.getLast?, isBlank b = true :=
        fun b hb => hblank b (by simp [List.getLast?_cons, Option.mem_def.mp hb])
      have hlast : (c :: text).getLast?.or prev = text.getLast?.or (some c) := by
        rw [List.getLast?_cons]
        cases text.getLast? <;> rfl
      obtain halone | ⟨⟨front, w, rfl, hw⟩, hwaits⟩ := ih hblank'
      · refine .inl fun rest more hfresh hmore => ?_
        rw [hlast] at hmore
        exact .skip (not_asksHere_append hno hcue hblank hfresh) (halone rest more hfresh hmore)
      · refine .inr ⟨⟨c :: front, w, rfl, hw⟩, fun run rest more hrun hfresh hmore => ?_⟩
        have hhead : ∀ d ∈ (run ++ rest).head?, isFollower d = false := by
          rwa [List.head?_append_of_ne_nil _ hrun.ne_nil]
        exact .skip (not_asksHere_append hno hcue hblank hhead) (hwaits run rest more hrun hfresh hmore)
  | @take prev w run rest names hcue hrun hread ih =>
    have hne := ne_nil_of_blank hrun hblank
    have hlast := List.getLast?_eq_some_getLast hne
    have hlast' : (w ++ (run ++ rest)).getLast? = some (rest.getLast hne) := by simp [List.getLast?_append, hlast]
    have hblank' : ∀ b ∈ rest.getLast?, isBlank b = true := fun b hb => hblank b (by rw [hlast', ← hlast]; exact hb)
    have hassoc : ∀ behind : List Char, w ++ (run ++ rest) ++ behind = w ++ (run ++ (rest ++ behind)) := by simp
    obtain halone | ⟨⟨front, w', hfront, hw'⟩, hwaits⟩ := ih hblank'
    · refine .inl fun behind more hfresh hmore => ?_
      rw [hassoc]
      refine .take hcue (hrun.append_right hne behind) (halone behind more hfresh ?_)
      rw [hlast]
      rwa [hlast'] at hmore
    · refine .inr ⟨⟨w ++ (run ++ front), w', by rw [hfront]; simp, hw'⟩, fun run' behind more hrun' hfresh hmore => ?_⟩
      rw [hassoc]
      exact .take hcue (hrun.append_right hne _) (hwaits run' behind more hrun' hfresh hmore)

/-- The text breaks off where a name is asked for: a letter behind it is one more name. -/
def awaitsName (text : List Char) : Bool :=
  hint.count text < hint.count (text ++ ['x'])

/-- A text that ends in a blank does not depend on what follows, unless it ends in words that wait for a name: then the
next word is the name. -/
theorem asked_split (hblank : ∀ b ∈ text.getLast?, isBlank b = true) :
    awaitsName text = false ∧
      (∀ rest, (∀ c ∈ rest.head?, isFollower c = false) → asked (text ++ rest) = asked text ++ asked rest) ∨
    awaitsName text = true ∧ (∃ front w, text = front ++ w ∧ w ∈ cueWords.language) ∧
      ∀ run rest more, IsRun run rest → (∀ c ∈ run.head?, isFollower c = false) → Asks run.getLast? rest more →
        asked (text ++ (run ++ rest)) = asked text ++ run :: more := by
  have hx : isFollower 'x' = false := by decide
  obtain ⟨names, hnames⟩ := exists_asks none text
  obtain halone | ⟨hends, hwaits⟩ := hnames.append hblank
  · have hsplit : ∀ rest, (∀ c ∈ rest.head?, isFollower c = false) →
        asked (text ++ rest) = asked text ++ asked rest := by
      intro rest hfresh
      obtain ⟨more, hmore⟩ := exists_asks none rest
      have hprev : (none : Option Char).any isWord = (text.getLast?.or none).any isWord := by
        cases hlast : text.getLast? with
        | none => rfl
        | some b => exact (Text.isWord_of_isBlank (hblank b hlast)).symm
      rw [(halone rest more hfresh (hmore.of_prev hprev)).asked_eq, hnames.asked_eq, hmore.asked_eq]
    refine .inl ⟨?_, hsplit⟩
    have hnone : asked ['x'] = [] := by decide +kernel
    have hcount := congrArg List.length (hsplit ['x'] (by simpa using hx))
    rw [hnone, List.append_nil, length_asked, length_asked] at hcount
    simp [awaitsName, hcount]
  · have hasked : ∀ run rest more, IsRun run rest → (∀ c ∈ run.head?, isFollower c = false) →
        Asks run.getLast? rest more → asked (text ++ (run ++ rest)) = asked text ++ run :: more := by
      intro run rest more hrun hfresh hmore
      rw [(hwaits run rest more hrun hfresh hmore).asked_eq, hnames.asked_eq]
    refine .inr ⟨?_, hends, hasked⟩
    have hrun : IsRun ['x'] [] := ⟨List.cons_ne_nil _ _, by simp; decide, by simp⟩
    have hcount := congrArg List.length (hasked ['x'] [] [] hrun (by simpa using hx) (.nil _))
    rw [List.append_nil, length_asked, List.length_append, length_asked, List.length_singleton] at hcount
    simp [awaitsName, hcount]

/-- A blank behind a text changes nothing. -/
theorem asked_concat_blank (text : List Char) (hb : isBlank b = true) : asked (text ++ [b]) = asked text := by
  obtain ⟨names, hnames⟩ := exists_asks none text
  rw [(hnames.concat_blank hb).asked_eq, hnames.asked_eq]

end RiskGauge.FileHint
