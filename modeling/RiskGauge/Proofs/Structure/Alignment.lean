import Mathlib.Algebra.GroupWithZero.Nat
import Mathlib.Data.Finset.Lattice.Fold
import Mathlib.Data.List.Sublists
import Mathlib.Order.Bounds.Basic
import Mathlib.Order.Lattice.Nat
import RiskGauge.Proofs.Structure.LongestBlock

/-!
# The alignment of two versions

`Aligns` says which blocks two versions of a text are aligned by: the first longest block of common lines, and then the
blocks of the lines ahead of it and of those behind it. Every pair of versions has one such list of blocks
(`exists_aligns`, `Aligns.unique`), whose lines are a common subsequence of the versions (`Aligns.exists_common`).

What is changed is read off the gaps between the blocks. Blocks that touch in both versions are joined (`joinFrom`), and
then each gap replaces, deletes or inserts lines (`edits`). As the blocks lie behind one another in both versions
(`Aligns.fits`), the lines that are replaced or inserted are those of the new version outside the blocks
(`changedLines_script`), which is what `ChangedLines.count` counts.
-/

namespace RiskGauge.ChangedLines

open scoped List

/-! ## Blocks by recursion -/

/-- The block, the given numbers of lines further on. -/
def Block.shift (i j : Nat) (b : Block) : Block :=
  ⟨i + b.old, j + b.new, b.length⟩

/-- The number of lines in blocks. -/
def covered (bs : List Block) : Nat :=
  (bs.map (·.length)).sum

theorem covered_cons (b : Block) (bs : List Block) : covered (b :: bs) = b.length + covered bs := by
  simp only [covered, List.map_cons, List.sum_cons]

theorem covered_split (ahead behind : List Block) (b : Block) (i j : Nat) :
    covered (ahead ++ b :: behind.map (Block.shift i j)) = covered ahead + b.length + covered behind := by
  have hshift : (behind.map (Block.shift i j)).map (·.length) = behind.map (·.length) := by
    rw [List.map_map]
    rfl
  simp only [covered, List.map_append, List.map_cons, hshift, List.sum_append, List.sum_cons]
  omega

section Aligned

variable {α : Type} {old new : List α} {bs : List Block}

/-- The blocks of two versions: none if they have no common line, and else the first longest block with the blocks of
the lines ahead of it and of the lines behind it. -/
inductive Aligns : List α → List α → List Block → Prop
  | apart {old new : List α} (h : ∀ line ∈ new, line ∉ old) : Aligns old new []
  | split {old new : List α} {b : Block} {ahead behind : List Block} (hb : b.FirstLongest old new)
      (hahead : Aligns (old.take b.old) (new.take b.new) ahead)
      (hbehind : Aligns (old.drop (b.old + b.length)) (new.drop (b.new + b.length)) behind) :
      Aligns old new (ahead ++ b :: behind.map (Block.shift (b.old + b.length) (b.new + b.length)))

theorem Block.FirstLongest.unique {b c : Block} (hb : b.FirstLongest old new) (hc : c.FirstLongest old new) : b = c := by
  have hlength : b.length = c.length := Nat.le_antisymm (hc.longest b hb.toCommon) (hb.longest c hc.toCommon)
  obtain rfl | hbc := hb.first c hc.toCommon hlength.symm
  · rfl
  · obtain rfl | hcb := hc.first b hb.toCommon hlength
    · rfl
    · unfold Precedes at hbc hcb
      omega

/-- Two versions have one alignment. -/
theorem Aligns.unique {cs : List Block} (h : Aligns old new bs) (h' : Aligns old new cs) : bs = cs := by
  induction h generalizing cs with
  | apart h =>
    cases h' with
    | apart _ => rfl
    | split hb _ _ =>
      obtain ⟨line, hnew, hold⟩ := hb.exists_mem hb.pos
      exact absurd hold (h line hnew)
  | split hb _ _ ihahead ihbehind =>
    cases h' with
    | apart h =>
      obtain ⟨line, hnew, hold⟩ := hb.exists_mem hb.pos
      exact absurd hold (h line hnew)
    | split hc hahead hbehind =>
      obtain rfl := hb.unique hc
      rw [ihahead hahead, ihbehind hbehind]

/-- The lines ahead of a block, those of the block and those behind it. -/
theorem take_block_drop (lines : List α) (i n : Nat) :
    lines.take i ++ (lines.drop i).take n ++ lines.drop (i + n) = lines := by
  rw [List.append_assoc, ← List.drop_drop, List.take_append_drop, List.take_append_drop]

/-- The lines of an alignment are a common subsequence. -/
theorem Aligns.exists_common (h : Aligns old new bs) :
    ∃ common : List α, common <+ old ∧ common <+ new ∧ common.length = covered bs := by
  induction h with
  | apart _ => exact ⟨[], List.nil_sublist _, List.nil_sublist _, rfl⟩
  | @split old new b ahead behind hb _ _ ihahead ihbehind =>
    obtain ⟨first, hfirstOld, hfirstNew, hfirst⟩ := ihahead
    obtain ⟨last, hlastOld, hlastNew, hlast⟩ := ihbehind
    refine ⟨first ++ (new.drop b.new).take b.length ++ last, ?_, ?_, ?_⟩
    · have hparts := (hfirstOld.append (List.Sublist.refl ((old.drop b.old).take b.length))).append hlastOld
      rwa [take_block_drop, hb.same] at hparts
    · have hparts := (hfirstNew.append (List.Sublist.refl ((new.drop b.new).take b.length))).append hlastNew
      rwa [take_block_drop] at hparts
    · have hle := hb.new_le
      rw [covered_split, List.length_append, List.length_append, hfirst, hlast, List.length_take, List.length_drop]
      omega

/-- No block of common lines is longer than all blocks of the alignment together. -/
theorem Aligns.le_covered (h : Aligns old new bs) {c : Block} (hc : c.Common old new) : c.length ≤ covered bs := by
  cases h with
  | apart h =>
    by_contra hpos
    obtain ⟨line, hnew, hold⟩ := hc.exists_mem (Nat.pos_of_ne_zero fun hzero => hpos (hzero ▸ Nat.zero_le _))
    exact h line hnew hold
  | split hb _ _ =>
    have hle := hb.longest c hc
    rw [covered_split]
    omega

theorem Aligns.covered_eq_zero_iff (h : Aligns old new bs) : covered bs = 0 ↔ ∀ line ∈ new, line ∉ old := by
  cases h with
  | apart h => exact ⟨fun _ => h, fun _ => rfl⟩
  | split hb _ _ =>
    have hpos := hb.pos
    obtain ⟨line, hnew, hold⟩ := hb.exists_mem hpos
    rw [covered_split]
    exact ⟨fun hzero => by omega, fun h => absurd hold (h line hnew)⟩

/-! ## Blocks behind one another -/

/-- In both versions the blocks lie behind one another, from lines `i` and `j` on and before lines `m` and `n`. -/
def Fits (i j m n : Nat) : List Block → Prop
  | [] => i ≤ m ∧ j ≤ n
  | b :: bs => i ≤ b.old ∧ j ≤ b.new ∧ Fits (b.old + b.length) (b.new + b.length) m n bs

theorem Fits.append {i j m n k l : Nat} {cs : List Block} (hbs : Fits i j m n bs)
    (hcs : ∀ {i j}, i ≤ m → j ≤ n → Fits i j k l cs) : Fits i j k l (bs ++ cs) := by
  induction bs generalizing i j with
  | nil => exact hcs hbs.1 hbs.2
  | cons b bs ih => exact ⟨hbs.1, hbs.2.1, ih hbs.2.2⟩

theorem Fits.shift {i j m n : Nat} (h : Fits i j m n bs) (k l : Nat) :
    Fits (k + i) (l + j) (k + m) (l + n) (bs.map (Block.shift k l)) := by
  induction bs generalizing i j with
  | nil => exact ⟨Nat.add_le_add_left h.1 k, Nat.add_le_add_left h.2 l⟩
  | cons b bs ih =>
    refine ⟨Nat.add_le_add_left h.1 k, Nat.add_le_add_left h.2.1 l, ?_⟩
    have hrest := ih h.2.2
    rwa [← Nat.add_assoc, ← Nat.add_assoc] at hrest

theorem Aligns.fits (h : Aligns old new bs) : Fits 0 0 old.length new.length bs := by
  induction h with
  | apart _ => exact ⟨Nat.zero_le _, Nat.zero_le _⟩
  | @split old new b ahead behind hb _ _ ihahead ihbehind =>
    have hold := hb.old_le
    have hnew := hb.new_le
    rw [List.length_take_of_le (by omega), List.length_take_of_le (by omega)] at ihahead
    have hrest := ihbehind.shift (b.old + b.length) (b.new + b.length)
    rw [List.length_drop, List.length_drop, Nat.add_sub_cancel' hold, Nat.add_sub_cancel' hnew] at hrest
    exact ihahead.append fun hi hj => ⟨hi, hj, hrest⟩

end Aligned

/-! ## Edits -/

/-- What becomes of a stretch of lines. -/
inductive EditKind where
  | equal
  | replace
  | delete
  | insert
deriving DecidableEq, Repr

/-- A stretch of lines of the old version, and the one of the new version that takes its place. -/
structure Edit where
  kind : EditKind
  oldFrom : Nat
  oldTo : Nat
  newFrom : Nat
  newTo : Nat
deriving DecidableEq, Repr

/-- The edit for lines outside all blocks; none if there are no such lines. -/
def gapEdit? (i j i' j' : Nat) : Option Edit :=
  if i < i' ∧ j < j' then some ⟨.replace, i, i', j, j'⟩
  else if i < i' then some ⟨.delete, i, i', j, j'⟩
  else if j < j' then some ⟨.insert, i, i', j, j'⟩
  else none

/-- The edit for the lines of a block; none for an empty one. -/
def blockEdit? (b : Block) : Option Edit :=
  if 0 < b.length then some ⟨.equal, b.old, b.old + b.length, b.new, b.new + b.length⟩ else none

/-- The edits from lines `i` and `j` to the end of the last block. -/
def edits (i j : Nat) : List Block → List Edit
  | [] => []
  | b :: bs =>
    (gapEdit? i j b.old b.new).toList ++ (blockEdit? b).toList ++ edits (b.old + b.length) (b.new + b.length) bs

/-- The block, unless it is empty. -/
def Block.nonempty (b : Block) : List Block :=
  if 0 < b.length then [b] else []

/-- The blocks behind `current`, joined with it and with one another where they touch in both versions; empty ones are
left out. -/
def joinFrom (current : Block) : List Block → List Block
  | [] => current.nonempty
  | b :: bs =>
    if current.old + current.length = b.old ∧ current.new + current.length = b.new then
      joinFrom { current with length := current.length + b.length } bs
    else current.nonempty ++ joinFrom b bs

/-- The edits for versions of `m` and `n` lines with the given blocks. -/
def script (m n : Nat) (bs : List Block) : List Edit :=
  edits 0 0 (joinFrom ⟨0, 0, 0⟩ bs ++ [⟨m, n, 0⟩])

/-- The number of lines of the new version that an edit replaces or inserts. -/
def Edit.changed (e : Edit) : Nat :=
  if e.kind = .replace ∨ e.kind = .insert then e.newTo - e.newFrom else 0

/-- The number of lines that edits replace or insert. -/
def changedLines (es : List Edit) : Nat :=
  (es.map Edit.changed).sum

theorem changedLines_append (es fs : List Edit) : changedLines (es ++ fs) = changedLines es + changedLines fs := by
  rw [changedLines, List.map_append, List.sum_append]
  rfl

theorem changedLines_gapEdit? (i j i' j' : Nat) : changedLines (gapEdit? i j i' j').toList = j' - j := by
  unfold gapEdit?
  split_ifs <;> simp [changedLines, Edit.changed] <;> omega

theorem changedLines_blockEdit? (b : Block) : changedLines (blockEdit? b).toList = 0 := by
  unfold blockEdit?
  split_ifs <;> simp [changedLines, Edit.changed]

variable {i j m n : Nat} {bs : List Block}

/-- The lines behind line `j` of the new version are those in blocks and those that are replaced or inserted. -/
theorem changedLines_edits (h : Fits i j m n bs) :
    j + covered bs + changedLines (edits i j (bs ++ [⟨m, n, 0⟩])) = n := by
  induction bs generalizing i j with
  | nil =>
    have hle := h.2
    simp only [List.nil_append, edits, changedLines_append, changedLines_gapEdit?, changedLines_blockEdit?]
    simp only [covered, changedLines, List.map_nil, List.sum_nil]
    omega
  | cons b bs ih =>
    have hle := h.2.1
    have hrest := ih h.2.2
    simp only [List.cons_append, edits, changedLines_append, changedLines_gapEdit?, changedLines_blockEdit?, covered_cons]
    omega

theorem Fits.mono {i' j' : Nat} (h : Fits i j m n bs) (hi : i' ≤ i) (hj : j' ≤ j) : Fits i' j' m n bs := by
  cases bs with
  | nil => exact ⟨Nat.le_trans hi h.1, Nat.le_trans hj h.2⟩
  | cons b bs => exact ⟨Nat.le_trans hi h.1, Nat.le_trans hj h.2.1, h.2.2⟩

/-- An empty block can be left out. -/
theorem Fits.nonempty_append {b : Block} (h : Fits i j m n (b :: bs)) : Fits i j m n (b.nonempty ++ bs) := by
  unfold Block.nonempty
  split_ifs with hpos
  · exact h
  · exact h.2.2.mono (Nat.le_trans h.1 (Nat.le_add_right ..)) (Nat.le_trans h.2.1 (Nat.le_add_right ..))

theorem covered_nonempty_append (b : Block) (bs : List Block) : covered (b.nonempty ++ bs) = b.length + covered bs := by
  unfold Block.nonempty
  split_ifs with hpos
  · exact covered_cons b bs
  · rw [List.nil_append, Nat.eq_zero_of_not_pos hpos, Nat.zero_add]

/-- Joining keeps blocks behind one another, and the number of lines in them. -/
theorem fits_joinFrom {current : Block} (h : Fits i j m n (current :: bs)) :
    Fits i j m n (joinFrom current bs) ∧ covered (joinFrom current bs) = current.length + covered bs := by
  induction bs generalizing current i j with
  | nil =>
    rw [joinFrom, ← List.append_nil current.nonempty]
    exact ⟨h.nonempty_append, covered_nonempty_append current []⟩
  | cons b bs ih =>
    obtain ⟨hi, hj, hb⟩ := h
    rw [joinFrom, covered_cons]
    split_ifs with htouch
    · have hjoined : Fits i j m n ({ current with length := current.length + b.length } :: bs) := by
        refine ⟨hi, hj, ?_⟩
        rw [← Nat.add_assoc, ← Nat.add_assoc, htouch.1, htouch.2]
        exact hb.2.2
      obtain ⟨hfits, hcovered⟩ := ih hjoined
      exact ⟨hfits, hcovered.trans (Nat.add_assoc ..)⟩
    · obtain ⟨hfits, hcovered⟩ := ih hb
      rw [covered_nonempty_append, hcovered]
      exact ⟨Fits.nonempty_append ⟨hi, hj, hfits⟩, rfl⟩

/-- The lines that are replaced or inserted are those outside the blocks. -/
theorem changedLines_script (h : Fits 0 0 m n bs) : covered bs + changedLines (script m n bs) = n := by
  have hstart : Fits 0 0 m n (⟨0, 0, 0⟩ :: bs) := ⟨Nat.le_refl 0, Nat.le_refl 0, h⟩
  obtain ⟨hfits, hcovered⟩ := fits_joinFrom hstart
  have hlines := changedLines_edits hfits
  rw [hcovered, Nat.zero_add, Nat.zero_add] at hlines
  exact hlines

/-! ## The count of changed lines -/

section Counted

variable {α : Type} [DecidableEq α] {old new : List α}

theorem matched_of_longest {b : Block} (h : longest old new = b) (hpos : 0 < b.length) (hlt : b.old < old.length) :
    matched old new = matched (old.take b.old) (new.take b.new) + b.length +
      matched (old.drop (b.old + b.length)) (new.drop (b.new + b.length)) := by
  rw [matched, h]
  exact if_pos ⟨hpos, hlt⟩

theorem matched_of_none (h : longest old new = ⟨0, 0, 0⟩) : matched old new = 0 := by
  rw [matched, h]
  exact if_neg fun hpos => Nat.lt_irrefl 0 hpos.1

/-- The lines that are counted as matched are those of the alignment. -/
theorem exists_aligns (old new : List α) : ∃ bs, Aligns old new bs ∧ matched old new = covered bs := by
  obtain ⟨hnone, hapart⟩ | hb := longest_cases old new
  · exact ⟨[], .apart hapart, matched_of_none hnone⟩
  · have hpos := hb.pos
    have hle := hb.old_le
    -- both parts of the old version are shorter, since the block is not empty
    obtain ⟨ahead, hahead, hcovered⟩ := exists_aligns (old.take (longest old new).old) (new.take (longest old new).new)
    obtain ⟨behind, hbehind, hcovered'⟩ := exists_aligns (old.drop ((longest old new).old + (longest old new).length))
      (new.drop ((longest old new).new + (longest old new).length))
    refine ⟨_, .split hb hahead hbehind, ?_⟩
    rw [matched_of_longest rfl hpos (by omega), covered_split, hcovered, hcovered']
termination_by old.length
decreasing_by
  · rw [List.length_take]
    omega
  · rw [List.length_drop]
    omega

/-- The length of the longest list of lines that both versions have, in this order. -/
def lcs (old new : List α) : Nat :=
  (old.sublists.filter (· <+ new)).toFinset.sup List.length

theorem isGreatest_lcs (old new : List α) :
    IsGreatest {n | ∃ common : List α, common <+ old ∧ common <+ new ∧ common.length = n} (lcs old new) := by
  have hmem : ∀ {common : List α},
      common ∈ (old.sublists.filter (· <+ new)).toFinset ↔ common <+ old ∧ common <+ new := by simp
  constructor
  · have hnonempty : ((old.sublists.filter (· <+ new)).toFinset).Nonempty :=
      ⟨[], hmem.mpr ⟨List.nil_sublist _, List.nil_sublist _⟩⟩
    obtain ⟨common, hcommon, hlength⟩ := Finset.exists_mem_eq_sup _ hnonempty List.length
    exact ⟨common, (hmem.mp hcommon).1, (hmem.mp hcommon).2, hlength.symm⟩
  · rintro n ⟨common, hold, hnew, rfl⟩
    exact Finset.le_sup (f := List.length) (hmem.mpr ⟨hold, hnew⟩)

end Counted

theorem count_some (text before : List Char) :
    count text (some before) = (Text.lines text).length - matched (Text.lines before) (Text.lines text) := by
  cases text with
  | nil => simp [count, Text.lines, Text.linesFrom]
  | cons c text => rfl

/-- The lines of a text that count as changed are those that the edits of its alignment with the version before replace or
insert. They are at least as many as the lines outside a longest common subsequence; they are all lines exactly if none of
the lines was there before, and none if the lines are the same. -/
theorem count_of_alignment (text before : List Char) :
    (∃! bs, Aligns (Text.lines before) (Text.lines text) bs) ∧
    (∀ bs, Aligns (Text.lines before) (Text.lines text) bs →
      count text (some before) = changedLines (script (Text.lines before).length (Text.lines text).length bs)) ∧
    (Text.lines text).length - lcs (Text.lines before) (Text.lines text) ≤ count text (some before) ∧
    count text (some before) ≤ (Text.lines text).length ∧
    (count text (some before) = (Text.lines text).length ↔ ∀ line ∈ Text.lines text, line ∉ Text.lines before) ∧
    (Text.lines before = Text.lines text → count text (some before) = 0) := by
  obtain ⟨bs, hbs, hmatched⟩ := exists_aligns (Text.lines before) (Text.lines text)
  have hscript := changedLines_script hbs.fits
  have hzero := hbs.covered_eq_zero_iff
  obtain ⟨common, hold, hnew, hcommon⟩ := hbs.exists_common
  have hlcs : covered bs ≤ lcs (Text.lines before) (Text.lines text) :=
    (isGreatest_lcs _ _).2 ⟨common, hold, hnew, hcommon⟩
  have hle : covered bs ≤ (Text.lines text).length := hcommon ▸ hnew.length_le
  rw [count_some, hmatched]
  refine ⟨⟨bs, hbs, fun cs hcs => hcs.unique hbs⟩, fun cs hcs => ?_, by omega, Nat.sub_le .., ?_, fun hsame => ?_⟩
  · rw [hcs.unique hbs]
    omega
  · rw [← hzero]
    omega
  · have hwhole : Block.Common (Text.lines before) (Text.lines text) ⟨0, 0, (Text.lines text).length⟩ := by
      rw [hsame]
      exact ⟨Nat.le_of_eq (Nat.zero_add _), Nat.le_of_eq (Nat.zero_add _), rfl⟩
    have hall := hbs.le_covered hwhole
    exact Nat.sub_eq_zero_of_le hall

/-- Other breaks between the same lines change nothing. -/
theorem count_other_breaks : Text.lines "a\r\nb\n".toList = Text.lines "a\nb".toList ∧
    count "a\nb".toList (some "a\r\nb\n".toList) = 0 := by
  have hlines : Text.lines "a\r\nb\n".toList = Text.lines "a\nb".toList := by decide +kernel
  obtain ⟨-, -, -, -, -, hsame⟩ := count_of_alignment "a\nb".toList "a\r\nb\n".toList
  exact ⟨hlines, hsame hlines⟩

-- the longest block crosses a longer common subsequence
example : count "a\nb\nc\np\nq\nx\nr\ns".toList (some "p\nq\nr\ns\na\nb\nc".toList) = 5 ∧
    8 - lcs (Text.lines "p\nq\nr\ns\na\nb\nc".toList) (Text.lines "a\nb\nc\np\nq\nx\nr\ns".toList) = 4 := by
  decide +kernel

end RiskGauge.ChangedLines
