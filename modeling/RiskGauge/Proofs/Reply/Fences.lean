import Mathlib.Data.Bool.AllAny
import RiskGauge.Proofs.Pattern.Ways
import RiskGauge.Reply.Snippet

/-!
# Fences in a reply

The blocks of a reply are found by a pattern that takes as few characters as will do between two fences. Here they are
found by cutting: `Fence.cut` cuts a text at its first fence, and `Fence.parts` at all of them, one after the other.

* `run_fenced`, `matchAt?_of_cut`: at a fence, the pattern matches up to the next fence behind it, if there is one;
* `findFrom?_of_cut`, `findFrom?_eq_none`: the first match in a text begins at its first fence, or there is none;
* `bodies_eq`: the bodies of the blocks are the parts with a fence on both sides, every fence counted once;
* `enclosed_parts_blocks`: where no backtick stands beside a fence, these are the bodies that were written (`Block`).
-/

namespace RiskGauge.Fence

/-- A fence. -/
def mark : List Char :=
  ['`', '`', '`']

/-- The text before the first fence, and the text behind it. -/
def cut : List Char → Option (List Char × List Char)
  | '`' :: '`' :: '`' :: rest => some ([], rest)
  | c :: rest => (cut rest).map fun p => (c :: p.1, p.2)
  | [] => none

/-- The texts between the fences, those before the first and behind the last one included. -/
def parts : List Char → List (List Char)
  | '`' :: '`' :: '`' :: rest => [] :: parts rest
  | c :: rest => (parts rest).modifyHead (c :: ·)
  | [] => [[]]

/-- Of the parts of a text, those that are enclosed by two fences: every second one, if there is another one behind it. -/
def enclosed : List (List Char) → List (List Char)
  | _ :: body :: next :: rest => body :: enclosed (next :: rest)
  | _ => []

/-! ## Cutting -/

section Cut

variable {xs ys a b : List Char} {c : Char}

@[simp] theorem cut_mark (rest : List Char) : cut (mark ++ rest) = some ([], rest) := by
  simp [mark, cut]

theorem cut_cons (h : ¬ mark <+: c :: xs) : cut (c :: xs) = (cut xs).map fun p => (c :: p.1, p.2) := by
  rw [cut]
  rintro rest rfl rfl
  exact h ⟨rest, rfl⟩

theorem cut_eq_some (h : cut xs = some (a, b)) : xs = a ++ (mark ++ b) := by
  fun_induction cut xs generalizing a with
  | case1 rest =>
    obtain ⟨rfl, rfl⟩ : [] = a ∧ rest = b := by simpa using h
    rfl
  | case2 c rest _ ih =>
    obtain ⟨⟨a', b'⟩, hrest, hpair⟩ := Option.map_eq_some_iff.mp h
    obtain ⟨rfl, rfl⟩ : c :: a' = a ∧ b' = b := by simpa using hpair
    rw [ih hrest, List.cons_append]
  | case3 => cases h

theorem isSome_cut_append (xs ys : List Char) : (cut (xs ++ (mark ++ ys))).isSome = true := by
  induction xs with
  | nil => simp
  | cons c xs ih =>
    by_cases h : mark <+: c :: (xs ++ (mark ++ ys))
    · obtain ⟨rest, hrest⟩ := h
      rw [List.cons_append, ← hrest, cut_mark]
      rfl
    · rw [List.cons_append, cut_cons h, Option.isSome_map]
      exact ih

/-- A text without backticks is passed on the way to the first fence. -/
theorem cut_append_of_not_mem (h : '`' ∉ xs) (ys : List Char) :
    cut (xs ++ ys) = (cut ys).map fun p => (xs ++ p.1, p.2) := by
  induction xs with
  | nil => simp
  | cons c xs ih =>
    obtain ⟨hc, hxs⟩ : '`' ≠ c ∧ '`' ∉ xs := by simpa using h
    have hmark : ¬ mark <+: c :: (xs ++ ys) := by
      rintro ⟨rest, hrest⟩
      exact hc (List.cons.inj hrest).1
    rw [List.cons_append, cut_cons hmark, ih hxs, Option.map_map]
    rfl

/-- A text without a fence, and not with a backtick at its end, is all that stands before a fence behind it. -/
theorem cut_append_mark (h : ¬ mark <:+: xs) (hlast : xs.getLast? ≠ some '`') (rest : List Char) :
    cut (xs ++ (mark ++ rest)) = some (xs, rest) := by
  induction xs with
  | nil => simp
  | cons c xs ih =>
    have hmark : ¬ mark <+: c :: (xs ++ (mark ++ rest)) := by
      rintro ⟨tail, htail⟩
      match xs with
      | [] =>
        obtain ⟨rfl, -⟩ : '`' = c ∧ _ := by simpa [mark] using htail
        exact hlast rfl
      | [d] =>
        obtain ⟨-, rfl, -⟩ : '`' = c ∧ '`' = d ∧ _ := by simpa [mark] using htail
        exact hlast rfl
      | d :: e :: xs =>
        obtain ⟨rfl, rfl, rfl, -⟩ : '`' = c ∧ '`' = d ∧ '`' = e ∧ _ := by simpa [mark] using htail
        exact h (List.IsPrefix.isInfix ⟨xs, rfl⟩)
    have hxs : ¬ mark <:+: xs := fun hinside => h (hinside.trans (List.suffix_cons c xs).isInfix)
    have hlast' : xs.getLast? ≠ some '`' := by
      intro hxs
      obtain ⟨front, rfl⟩ := List.getLast?_eq_some_iff.mp hxs
      exact hlast (List.getLast?_eq_some_iff.mpr ⟨c :: front, rfl⟩)
    rw [List.cons_append, cut_cons hmark, ih hxs hlast']
    rfl

/-- The parts of a text are what stands before its first fence, and the parts of the rest. -/
theorem parts_eq (xs : List Char) : parts xs = ((cut xs).map fun p => p.1 :: parts p.2).getD [xs] := by
  fun_induction cut xs with
  | case1 rest => rfl
  | case2 c rest hmark ih =>
    rw [parts, ih]
    · cases cut rest <;> rfl
    · exact hmark
  | case3 => rfl

theorem parts_of_cut (h : cut xs = some (a, b)) : parts xs = a :: parts b := by
  rw [parts_eq, h]
  rfl

theorem parts_of_cut_none (h : cut xs = none) : parts xs = [xs] := by
  rw [parts_eq, h]
  rfl

theorem parts_ne_nil (xs : List Char) : parts xs ≠ [] := by
  rw [parts_eq]
  cases cut xs <;> simp

theorem enclosed_cons (a body rest : List Char) :
    enclosed (a :: body :: parts rest) = body :: enclosed (parts rest) := by
  obtain ⟨next, others, h⟩ := List.exists_cons_of_ne_nil (parts_ne_nil rest)
  rw [h, enclosed]

end Cut

/-! ## Finding -/

section Find

variable {s : Cursor} {text body rest a b : List Char}

open Pattern (Found)

/-- The place behind a block of `n` characters between two fences, with the block as its first group. -/
def behind (n : Nat) (s : Cursor) : Cursor :=
  ((((s.advance 3).openGroup 1).advance n).closeGroup 1).advance 3

theorem behind_after (n : Nat) (s : Cursor) : (behind n s).after = s.after.drop (n + 6) := by
  show ((s.after.drop 3).drop n).drop 3 = _
  rw [List.drop_drop, List.drop_drop]
  congr 1
  omega

theorem behind_left (n : Nat) (s : Cursor) : (behind n s).left = s.left - (n + 6) := by
  show s.left - 3 - n - 3 = _
  omega

theorem sound_behind (hs : s.Sound) (n : Nat) : (behind n s).Sound :=
  ((hs.advance 3).advance n).advance 3

/-- The first group of the place behind a block is the block. -/
theorem group?_behind (hs : s.Sound) (hmarks : s.marks = []) (h : s.after = mark ++ (body ++ (mark ++ rest))) :
    (behind body.length s).group? 1 = some body := by
  have hleft : s.left = 3 + (body.length + (mark ++ rest).length) := by
    rw [hs, h, List.length_append, List.length_append]
    rfl
  have htext : (behind body.length s).text = (s.before.reverse ++ mark) ++ (body ++ (mark ++ rest)) := by
    have hsame : (behind body.length s).text = s.text := by simp [behind]
    rw [hsame, Cursor.text, h, List.append_assoc]
  have hgroup : (behind body.length s).group? 1 =
      if s.left - 3 - body.length ≤ s.left - 3 then
        some ((behind body.length s).between (s.left - 3) (s.left - 3 - body.length)) else none := by
    obtain ⟨before, after, left, marks⟩ := s
    subst hmarks
    rfl
  have hbetween := (sound_behind hs body.length).between_eq htext
  have hstart : s.left - 3 = body.length + (mark ++ rest).length := by omega
  have hstop : s.left - 3 - body.length = (mark ++ rest).length := by omega
  rw [hgroup, if_pos (Nat.sub_le _ _), hstop, hstart, hbetween]

/-- The first place with a fence after it, among those further on. -/
theorem findSome?_mark {β : Type} (xs : List Char) (f : Nat → β) :
    (List.range (xs.length + 1)).findSome? (fun n => if mark <+: xs.drop n then some (f n) else none) =
      (cut xs).map fun p => f p.1.length := by
  induction xs generalizing f with
  | nil => simp [mark, cut]
  | cons c xs ih =>
    rw [List.length_cons, List.range_succ_eq_map, List.findSome?_cons, List.findSome?_map, List.drop_zero]
    by_cases h : mark <+: c :: xs
    · obtain ⟨rest, hrest⟩ := h
      rw [← hrest, cut_mark, if_pos (List.prefix_append mark rest)]
      rfl
    · rw [if_neg h, cut_cons h, Option.map_map]
      exact ih fun n => f (n + 1)

/-- At a fence, the pattern takes what stands before the next one. -/
theorem run_fenced (s : Cursor) : Snippet.fenced.run s some =
    if mark <+: s.after then (cut (s.after.drop 3)).map fun p => behind p.1.length s else none := by
  have hrun : Snippet.fenced.run s some = (Pattern.exactly "```").run s fun t =>
      (Pattern.span (fun _ => true) 0 none true).run (t.openGroup 1) fun u =>
        (Pattern.exactly "```").run (u.closeGroup 1) some := rfl
  have htext : "```".toList = mark := rfl
  simp only [hrun, Pattern.run_exactly, Pattern.run_span_lazy, htext]
  rw [← findSome?_mark (s.after.drop 3) fun n => behind n s]
  rfl

/-- The match takes a block between two fences, of which the second one ends it. -/
structure Takes (m : Found) (body rest : List Char) : Prop where
  group : m.group 1 = body
  after : m.stop.after = rest
  sound : m.stop.Sound
  forward : m.stop.left < m.start.left

theorem matchAt?_eq_none (h : ∀ rest, s.after = mark ++ rest → cut rest = none) : Snippet.fenced.matchAt? s = none := by
  rw [Pattern.matchAt?, run_fenced]
  split
  · rename_i hmark
    obtain ⟨rest, hrest⟩ := hmark
    have hdrop : s.after.drop 3 = rest := by rw [← hrest]; rfl
    simp only [hdrop, h rest hrest.symm, Option.map_none]
  · rfl

theorem matchAt?_of_cut (hs : s.Sound) (hafter : s.after = mark ++ a) (hcut : cut a = some (body, rest)) :
    ∃ m, Snippet.fenced.matchAt? s = some m ∧ Takes m body rest := by
  have hdrop : s.after.drop 3 = a := by rw [hafter]; rfl
  have ha : a = body ++ (mark ++ rest) := cut_eq_some hcut
  refine ⟨{ start := s, stop := behind body.length { s with marks := [] } }, ?_, ?_, ?_, ?_, ?_⟩
  · rw [Pattern.matchAt?, run_fenced]
    simp only [hdrop, hcut, Option.map_some]
    rw [if_pos ⟨a, hafter.symm⟩]
    rfl
  · exact congrArg (·.getD []) (group?_behind (s := { s with marks := [] }) hs rfl (ha ▸ hafter))
  · rw [behind_after]
    simp [hafter, ha, mark]
  · exact sound_behind hs body.length
  · have hpos : 0 < s.left := by
      rw [hs, hafter]
      exact Nat.succ_pos _
    rw [behind_left]
    exact Nat.sub_lt hpos (Nat.succ_pos _)

/-- The first match begins at the first fence. -/
theorem findFrom?_of_cut (hs : s.Sound) (htext : s.after = text) (hfirst : cut text = some (a, b))
    (hsecond : cut b = some (body, rest)) : ∃ m, Snippet.fenced.findFrom? s text = some m ∧ Takes m body rest := by
  fun_induction cut text generalizing s a with
  | case1 tail =>
    obtain ⟨-, rfl⟩ : [] = a ∧ tail = b := by simpa using hfirst
    obtain ⟨m, hm, htakes⟩ := matchAt?_of_cut hs htext hsecond
    exact ⟨m, by rw [Pattern.findFrom?, hm], htakes⟩
  | case2 c tail hmark ih =>
    obtain ⟨⟨a', b'⟩, htail, hpair⟩ := Option.map_eq_some_iff.mp hfirst
    obtain ⟨-, rfl⟩ : c :: a' = a ∧ b' = b := by simpa using hpair
    have hnone : Snippet.fenced.matchAt? s = none := matchAt?_eq_none fun rest hrest => by
      rw [htext] at hrest
      obtain ⟨rfl, rfl⟩ := List.cons.inj hrest
      exact absurd rfl (hmark rest rfl)
    rw [Pattern.findFrom?, hnone, ← Cursor.advance_one htext]
    exact ih (hs.advance 1) (by simp [htext]) htail
  | case3 => cases hfirst

/-- Two fences that do not overlap are found by cutting twice. -/
theorem isSome_bind_cut (a b c : List Char) :
    ((cut (a ++ (mark ++ (b ++ (mark ++ c))))).bind fun p => cut p.2).isSome = true := by
  induction a with
  | nil => simpa using isSome_cut_append b c
  | cons x a ih =>
    by_cases h : mark <+: x :: (a ++ (mark ++ (b ++ (mark ++ c))))
    · obtain ⟨tail, htail⟩ := h
      have hdrop : tail = ((a ++ mark).drop 2 ++ b) ++ (mark ++ c) := by
        have hlong : 2 ≤ (a ++ mark).length := by simp [mark]
        rw [List.append_assoc, ← List.drop_append_of_le_length hlong, List.append_assoc]
        exact congrArg (List.drop 3) htail
      rw [List.cons_append, ← htail, cut_mark, hdrop]
      exact isSome_cut_append _ c
    · rw [List.cons_append, cut_cons h, Option.bind_map]
      exact ih

theorem findFrom?_eq_none (htext : s.after = text) (h : ((cut text).bind fun p => cut p.2) = none) :
    Snippet.fenced.findFrom? s text = none := by
  induction text generalizing s with
  | nil =>
    rw [Pattern.findFrom?]
    exact matchAt?_eq_none fun rest hrest => by simp [htext, mark] at hrest
  | cons c text ih =>
    have hnone : Snippet.fenced.matchAt? s = none := matchAt?_eq_none fun rest hrest => by
      rw [htext] at hrest
      rw [hrest, cut_mark] at h
      exact h
    rw [Pattern.findFrom?, hnone, ← Cursor.advance_one htext]
    refine ih (by simp [htext]) ?_
    by_contra hsome
    obtain ⟨⟨body, rest⟩, hboth⟩ := Option.ne_none_iff_exists'.mp hsome
    obtain ⟨⟨a, b⟩, hfirst, hsecond⟩ := Option.bind_eq_some_iff.mp hboth
    have htwo := isSome_bind_cut (c :: a) body rest
    rw [List.cons_append, ← cut_eq_some hsecond, ← cut_eq_some hfirst, h] at htwo
    cases htwo

/-- The matches from a place on take the enclosed parts of the text after it. -/
theorem map_group_findUpTo (n : Nat) (hs : s.Sound) (hn : s.after.length < n) :
    (Snippet.fenced.findUpTo n s).map (·.group 1) = enclosed (parts s.after) := by
  induction n generalizing s with
  | zero => omega
  | succ n ih =>
    rw [Pattern.findUpTo, Pattern.findAt?]
    cases hfirst : cut s.after with
    | none =>
      rw [findFrom?_eq_none rfl (by rw [hfirst]; rfl), parts_of_cut_none hfirst]
      rfl
    | some p =>
      obtain ⟨a, b⟩ := p
      rw [parts_of_cut hfirst]
      cases hsecond : cut b with
      | none =>
        rw [findFrom?_eq_none rfl (by rw [hfirst]; exact hsecond), parts_of_cut_none hsecond]
        rfl
      | some q =>
        obtain ⟨body, rest⟩ := q
        obtain ⟨m, hm, htakes⟩ := findFrom?_of_cut hs rfl hfirst hsecond
        have hlength : m.stop.after.length < n := by
          rw [cut_eq_some hfirst, cut_eq_some hsecond] at hn
          simp only [htakes.after, List.length_append, mark, List.length_cons] at hn ⊢
          omega
        rw [hm, parts_of_cut hsecond, enclosed_cons]
        simp only [htakes.forward, if_true, List.map_cons, htakes.group, ih htakes.sound hlength, htakes.after]

/-- The bodies of the blocks are the enclosed parts of a reply. -/
theorem bodies_eq (text : List Char) : Snippet.bodies text = enclosed (parts text) :=
  map_group_findUpTo (text.length + 1) (Cursor.sound_ofText text) (Nat.lt_succ_self text.length)

end Find

/-! ## Blocks -/

/-- A block of code in a reply, and the text in front of it. The text has no backticks, and the code none that could be
taken for a part of a fence. -/
structure Block where
  prose : List Char
  tag : List Char
  code : List Char
  prose_free : '`' ∉ prose
  tag_length : 1 ≤ tag.length ∧ tag.length ≤ 20
  tag_chars : ∀ c ∈ tag, c.isAlphanum = true ∨ c ∈ ['+', '#', '.', '_', '-']
  code_free : ¬ mark <:+: code
  code_last : code.getLast? ≠ some '`'

namespace Block

variable (b : Block)

/-- What stands between the fences. -/
def body : List Char :=
  b.tag ++ '\n' :: b.code

/-- The block as it is written. -/
def text : List Char :=
  b.prose ++ (mark ++ (b.body ++ mark))

/-- The snippet that the block stands for. -/
def snippet : Snippet where
  language := String.ofList b.tag
  code := String.ofList b.code
  suggested := FileHint.find? b.code

theorem code_alphanum {c : Char} (h : c.isAlphanum = true) :
    (65 ≤ c.toNat ∧ c.toNat ≤ 90 ∨ 97 ≤ c.toNat ∧ c.toNat ≤ 122) ∨ 48 ≤ c.toNat ∧ c.toNat ≤ 57 := by
  delta Char.isAlphanum Char.isAlpha Char.isUpper Char.isLower Char.isDigit at h
  simpa [UInt32.le_iff_toNat_le] using h

theorem isTagChar_of_alphanum {c : Char} (h : c.isAlphanum = true) : Snippet.isTagChar c = true := by
  have halnum : Text.isAsciiAlnum c = true := by
    simp only [Text.isAsciiAlnum, Text.isAsciiLetter, Text.isAsciiDigit, Char.le_def, UInt32.le_iff_toNat_le,
      Bool.or_eq_true, Bool.and_eq_true, decide_eq_true_eq]
    rcases code_alphanum h with (hcode | hcode) | hcode
    · exact .inl (.inr hcode)
    · exact .inl (.inl hcode)
    · exact .inr hcode
  simp [Snippet.isTagChar, halnum]

/-- Letters, digits and the signs of tags are no blanks, line feeds or backticks. -/
theorem tag_char {c : Char} (h : c.isAlphanum = true ∨ c ∈ ['+', '#', '.', '_', '-']) :
    Snippet.isTagChar c = true ∧ Text.isBlank c = false ∧ c ≠ '\n' ∧ c ≠ '`' := by
  rcases h with h | h
  · have hcode := code_alphanum h
    have hascii : c.toNat < 0x80 := by omega
    refine ⟨isTagChar_of_alphanum h, ?_, ?_, ?_⟩
    · simp only [Text.isBlank, hascii, if_true, Bool.or_eq_false_iff, Bool.and_eq_false_iff, decide_eq_false_iff_not]
      omega
    · rintro rfl
      exact absurd h (by decide)
    · rintro rfl
      exact absurd h (by decide)
  · obtain rfl | rfl | rfl | rfl | rfl : c = '+' ∨ c = '#' ∨ c = '.' ∨ c = '_' ∨ c = '-' := by simpa using h
    all_goals decide

theorem isTag : Snippet.isTag b.tag = true := by
  have hchars : b.tag.all Snippet.isTagChar = true := List.all_eq_true.mpr fun c hc => (tag_char (b.tag_chars c hc)).1
  have hne : b.tag ≠ [] := List.length_pos_iff.mp b.tag_length.1
  simp [Snippet.isTag, hchars, hne, b.tag_length.2]

theorem trim_tag : Text.trim b.tag = b.tag :=
  Text.trim_of_forall fun c hc => (tag_char (b.tag_chars c hc)).2.1

/-- The first line of a block is its tag, and the rest is its code. -/
theorem ofBody_body : Snippet.ofBody b.body = b.snippet := by
  have hline : ∀ c ∈ b.tag, (c != '\n') = true := fun c hc => by simpa using (tag_char (b.tag_chars c hc)).2.2.1
  have hfirst : b.body.takeWhile (· != '\n') = b.tag := by
    rw [body, List.takeWhile_append_of_pos hline]
    simp
  have hrest : b.body.drop b.tag.length = '\n' :: b.code := by simp [body]
  simp only [Snippet.ofBody, hfirst, hrest, b.trim_tag, b.isTag, if_true]
  rfl

theorem cut_text (rest : List Char) : cut (b.text ++ rest) = some (b.prose, b.body ++ (mark ++ rest)) := by
  have htext : b.text ++ rest = b.prose ++ (mark ++ (b.body ++ (mark ++ rest))) := by simp [text]
  rw [htext, cut_append_of_not_mem b.prose_free, cut_mark]
  simp

theorem cut_body (rest : List Char) : cut (b.body ++ (mark ++ rest)) = some (b.body, rest) := by
  have htag : '`' ∉ b.tag ++ ['\n'] := by
    simpa using fun h => (tag_char (b.tag_chars '`' h)).2.2.2 rfl
  have hbody : b.body ++ (mark ++ rest) = (b.tag ++ ['\n']) ++ (b.code ++ (mark ++ rest)) := by simp [body]
  rw [hbody, cut_append_of_not_mem htag, cut_append_mark b.code_free b.code_last]
  simp [body]

end Block

theorem enclosed_parts_blocks (blocks : List Block) {closing : List Char} (h : '`' ∉ closing) :
    enclosed (parts (blocks.flatMap Block.text ++ closing)) = blocks.map Block.body := by
  induction blocks with
  | nil =>
    have hcut : cut closing = none := by
      rw [← List.append_nil closing, cut_append_of_not_mem h]
      rfl
    rw [List.flatMap_nil, List.nil_append, parts_of_cut_none hcut]
    rfl
  | cons b blocks ih =>
    rw [List.flatMap_cons, List.append_assoc, parts_of_cut (b.cut_text _), parts_of_cut (b.cut_body _), enclosed_cons, ih,
      List.map_cons]

/-- Blocks that are written one after the other, with text between them and behind the last one, are read back with their
tags and their code, in their order. -/
theorem ofReply_blocks (blocks : List Block) {closing : List Char} (h : '`' ∉ closing) :
    Snippet.ofReply (blocks.flatMap Block.text ++ closing) = blocks.map Block.snippet := by
  rw [Snippet.ofReply, bodies_eq, enclosed_parts_blocks blocks h, List.map_map]
  exact List.map_congr_left fun b _ => b.ofBody_body

/-- A block whose code has backticks and asks for a file name, and an empty block right behind it. -/
def replyBlocks : List Block :=
  [{ prose := "Like this:\n".toList, tag := "c++".toList, code := "`x` ``y``; // file: src/a.cpp\n".toList
     prose_free := by decide, tag_length := by decide, tag_chars := List.all_iff_forall_prop.mp (by decide)
     code_free := by decide, code_last := by decide },
    { prose := [], tag := "ts".toList, code := []
      prose_free := by decide, tag_length := by decide, tag_chars := List.all_iff_forall_prop.mp (by decide)
      code_free := by decide, code_last := by decide }]

theorem ofReply_replyBlocks : '`' ∉ " Done.".toList ∧
    Snippet.ofReply "Like this:\n```c++\n`x` ``y``; // file: src/a.cpp\n``````ts\n``` Done.".toList =
      [{ language := "c++", code := "`x` ``y``; // file: src/a.cpp\n", suggested := some "src/a.cpp" },
        { language := "ts", code := "", suggested := none }] := by
  have hclosing : '`' ∉ " Done.".toList := by decide
  refine ⟨hclosing, (ofReply_blocks replyBlocks hclosing).trans ?_⟩
  decide +kernel

end RiskGauge.Fence
