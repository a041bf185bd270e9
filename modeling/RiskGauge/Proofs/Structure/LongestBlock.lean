import Mathlib.Data.List.Basic
import RiskGauge.Structure.ChangedLines

/-!
# The longest common block

`ChangedLines.longest` looks for the longest common block of two lists of lines in the lengths of all common runs. Each row
of lengths is computed from the row below it (`runs_eq`), and the search through the rows keeps the first of the longest
blocks (`foldl_longer`).

* `Block.FirstLongest`: a block of common lines such that no other is longer, and no other of its length begins earlier in
  the old version, or in the same line of the old version and earlier in the new one;
* `longest_cases`: the block that is found is the first longest one, or there is no common line.
-/

namespace RiskGauge.ChangedLines

variable {α : Type} [DecidableEq α] {old new : List α}

/-! ## Common runs -/

/-- How many lines two lists have in common before they differ. -/
def commonRun : List α → List α → Nat
  | x :: xs, y :: ys => if x = y then commonRun xs ys + 1 else 0
  | _, _ => 0

@[simp] theorem commonRun_nil_left (ys : List α) : commonRun [] ys = 0 := rfl

@[simp] theorem commonRun_nil_right (xs : List α) : commonRun xs [] = 0 := by
  cases xs <;> rfl

/-- So many lines are common if they are there and the same. -/
theorem le_commonRun_iff {n : Nat} :
    n ≤ commonRun old new ↔ n ≤ old.length ∧ n ≤ new.length ∧ old.take n = new.take n := by
  fun_induction commonRun old new generalizing n with
  | case1 x xs ys ih =>
    cases n with
    | zero => simp
    | succ n => simp [ih]
  | case2 x xs y ys hne =>
    cases n with
    | zero => simp
    | succ n => simp [hne]
  | case3 old new hnone =>
    cases old with
    | nil =>
      simp only [Nat.le_zero_eq, List.length_nil, List.take_nil, iff_self_and]
      rintro rfl
      simp
    | cons x xs =>
      cases new with
      | nil =>
        simp only [Nat.le_zero_eq, List.length_nil, List.take_nil]
        constructor
        · rintro rfl
          simp
        · exact fun h => h.2.1
      | cons y ys => exact absurd rfl (hnone x xs y ys rfl)

/-- The lengths of the common runs from the first line of `old` and each line of `new` on. -/
def row (old new : List α) : List Nat :=
  (List.range new.length).map fun j => commonRun old (new.drop j)

theorem row_cons (x : α) : row old (x :: new) = commonRun old (x :: new) :: row old new := by
  simp only [row, List.length_cons, List.range_succ_eq_map, List.map_cons, List.map_map, List.drop_zero]
  rfl

theorem getD_row (old new : List α) (j : Nat) : (row old new).getD j 0 = commonRun old (new.drop j) := by
  by_cases hj : j < new.length
  · simp [row, List.getD_eq_getElem?_getD, hj]
  · simp [row, List.getD_eq_getElem?_getD, hj, List.drop_eq_nil_of_le (Nat.le_of_not_lt hj)]

/-- A row of lengths comes from the one for the lines that follow. -/
theorem runsFrom_eq (line : α) {below : List Nat} (h : ∀ j, below.getD j 0 = commonRun old (new.drop j)) :
    runsFrom line new below = row (line :: old) new := by
  induction new generalizing below with
  | nil => rfl
  | cons x new ih =>
    have hdrop : ∀ j, (below.drop 1).getD j 0 = commonRun old (new.drop j) := fun j => by
      have hj := h (j + 1)
      rw [List.drop_succ_cons] at hj
      rw [← hj, List.getD_eq_getElem?_getD, List.getD_eq_getElem?_getD, List.getElem?_drop, Nat.add_comm]
    have hhead : (below.drop 1).headD 0 = commonRun old new := by
      have h0 := hdrop 0
      rwa [List.drop_zero, List.getD_eq_getElem?_getD, ← List.head?_eq_getElem?, ← List.headD_eq_head?_getD] at h0
    rw [runsFrom, ih hdrop, row_cons, hhead]
    rfl

theorem runs_eq (old new : List α) :
    runs new old = (List.range old.length).map fun i => row (old.drop i) new := by
  induction old with
  | nil => rfl
  | cons line old ih =>
    have hbelow : ∀ j, ((runs new old).headD []).getD j 0 = commonRun old (new.drop j) := by
      intro j
      cases old with
      | nil => simp [runs]
      | cons x old =>
        rw [ih, List.length_cons, List.range_succ_eq_map]
        exact getD_row (x :: old) new j
    rw [runs, runsFrom_eq line hbelow, ih, List.length_cons, List.range_succ_eq_map, List.map_cons, List.map_map]
    rfl

/-! ## Blocks of common lines -/

namespace Block

/-- The lines of the block are there in both versions, and are the same. -/
structure Common (old new : List α) (b : Block) : Prop where
  old_le : b.old + b.length ≤ old.length
  new_le : b.new + b.length ≤ new.length
  same : (old.drop b.old).take b.length = (new.drop b.new).take b.length

/-- The block begins earlier: in the old version, or in the same line of it and in the new version. -/
def Precedes (b c : Block) : Prop :=
  b.old < c.old ∨ b.old = c.old ∧ b.new < c.new

/-- The block is not empty, none of common lines is longer, and it precedes all others that are as long. -/
structure FirstLongest (old new : List α) (b : Block) : Prop extends b.Common old new where
  pos : 0 < b.length
  longest : ∀ c : Block, c.Common old new → c.length ≤ b.length
  first : ∀ c : Block, c.Common old new → c.length = b.length → c = b ∨ b.Precedes c

/-- The longest block of common lines that begins in given lines. -/
def beginning (old new : List α) (i j : Nat) : Block :=
  ⟨i, j, commonRun (old.drop i) (new.drop j)⟩

theorem Common.le_beginning {b : Block} (h : b.Common old new) :
    b.length ≤ (beginning old new b.old b.new).length := by
  have hold := h.old_le
  have hnew := h.new_le
  refine le_commonRun_iff.mpr ⟨?_, ?_, h.same⟩
  · rw [List.length_drop]
    omega
  · rw [List.length_drop]
    omega

omit [DecidableEq α] in
/-- A block that is not empty has a common line. -/
theorem Common.exists_mem {b : Block} (h : b.Common old new) (hpos : 0 < b.length) : ∃ line ∈ new, line ∈ old := by
  have hnew := h.new_le
  have hne : (new.drop b.new).take b.length ≠ [] := by
    rw [← List.length_pos_iff, List.length_take, List.length_drop]
    omega
  obtain ⟨line, hline⟩ := List.exists_mem_of_ne_nil _ hne
  have hold : line ∈ (old.drop b.old).take b.length := h.same ▸ hline
  exact ⟨line, List.mem_of_mem_drop (List.mem_of_mem_take hline), List.mem_of_mem_drop (List.mem_of_mem_take hold)⟩

theorem common_beginning {i j : Nat} (hi : i < old.length) (hj : j < new.length) :
    (beginning old new i j).Common old new := by
  obtain ⟨hold, hnew, hsame⟩ := le_commonRun_iff.mp (Nat.le_refl (commonRun (old.drop i) (new.drop j)))
  rw [List.length_drop] at hold hnew
  constructor
  · simp only [beginning]
    omega
  · simp only [beginning]
    omega
  · exact hsame

/-- The blocks of `beginning`, ordered by where they begin. -/
def inOrder (old new : List α) : List Block :=
  (List.range old.length).flatMap fun i => (List.range new.length).map (beginning old new i)

theorem mem_inOrder {b : Block} :
    b ∈ inOrder old new ↔ ∃ i j, i < old.length ∧ j < new.length ∧ b = beginning old new i j := by
  simp only [inOrder, List.mem_flatMap, List.mem_map, List.mem_range]
  constructor
  · rintro ⟨i, hi, j, hj, rfl⟩
    exact ⟨i, j, hi, hj, rfl⟩
  · rintro ⟨i, j, hi, hj, rfl⟩
    exact ⟨i, hi, j, hj, rfl⟩

/-- A block that is not empty and as long as it can be is among them. -/
theorem Common.mem_inOrder {b : Block} (h : b.Common old new) (hpos : 0 < b.length)
    (hmax : (beginning old new b.old b.new).length ≤ b.length) : b ∈ inOrder old new := by
  have hold := h.old_le
  have hnew := h.new_le
  have hbeginning : b = beginning old new b.old b.new := by
    rw [beginning, Block.mk.injEq]
    exact ⟨rfl, rfl, Nat.le_antisymm h.le_beginning hmax⟩
  exact Block.mem_inOrder.mpr ⟨b.old, b.new, by omega, by omega, hbeginning⟩

/-- A common line begins a block. -/
theorem exists_mem_inOrder {line : α} (hnew : line ∈ new) (hold : line ∈ old) :
    ∃ b ∈ inOrder old new, 0 < b.length := by
  obtain ⟨i, hi, hline⟩ := List.mem_iff_getElem.mp hold
  obtain ⟨j, hj, rfl⟩ := List.mem_iff_getElem.mp hnew
  refine ⟨beginning old new i j, Block.mem_inOrder.mpr ⟨i, j, hi, hj, rfl⟩, ?_⟩
  rw [beginning, List.drop_eq_getElem_cons hi, List.drop_eq_getElem_cons hj, commonRun, if_pos hline]
  exact Nat.succ_pos _

theorem pairwise_inOrder (old new : List α) : (inOrder old new).Pairwise Precedes := by
  refine List.pairwise_flatMap.mpr ⟨fun i _ => ?_, ?_⟩
  · rw [List.pairwise_map]
    exact List.pairwise_lt_range.imp fun hlt => .inr ⟨rfl, hlt⟩
  · refine List.pairwise_lt_range.imp fun hlt b hb c hc => ?_
    obtain ⟨j, -, rfl⟩ := List.mem_map.mp hb
    obtain ⟨k, -, rfl⟩ := List.mem_map.mp hc
    exact .inl hlt

/-- The longer of two blocks, and the first of two that are equally long. -/
def longer (b c : Block) : Block :=
  if b.length < c.length then c else b

/-- A search for the longest block keeps the one that it has, or it finds the first one that no other exceeds. -/
theorem foldl_longer (best : Block) (bs : List Block) :
    bs.foldl longer best = best ∧ (∀ c ∈ bs, c.length ≤ best.length) ∨
    ∃ ahead b behind, bs = ahead ++ b :: behind ∧ bs.foldl longer best = b ∧ best.length < b.length ∧
      (∀ c ∈ ahead, c.length < b.length) ∧ ∀ c ∈ behind, c.length ≤ b.length := by
  induction bs generalizing best with
  | nil => exact .inl ⟨rfl, fun c hc => absurd hc List.not_mem_nil⟩
  | cons d bs ih =>
    rw [List.foldl_cons, longer]
    by_cases hd : best.length < d.length
    · rw [if_pos hd]
      obtain ⟨hkept, hle⟩ | ⟨ahead, b, behind, rfl, hfound, hlt, hahead, hbehind⟩ := ih d
      · exact .inr ⟨[], d, bs, rfl, hkept, hd, fun c hc => absurd hc List.not_mem_nil, hle⟩
      · exact .inr ⟨d :: ahead, b, behind, rfl, hfound, Nat.lt_trans hd hlt,
          List.forall_mem_cons.mpr ⟨hlt, hahead⟩, hbehind⟩
    · rw [if_neg hd]
      obtain ⟨hkept, hle⟩ | ⟨ahead, b, behind, rfl, hfound, hlt, hahead, hbehind⟩ := ih best
      · exact .inl ⟨hkept, List.forall_mem_cons.mpr ⟨Nat.le_of_not_lt hd, hle⟩⟩
      · exact .inr ⟨d :: ahead, b, behind, rfl, hfound, hlt,
          List.forall_mem_cons.mpr ⟨Nat.lt_of_le_of_lt (Nat.le_of_not_lt hd) hlt, hahead⟩, hbehind⟩

/-- Of the blocks in their order, the first one that no other exceeds is the first longest of all blocks of common lines. -/
theorem firstLongest_of_inOrder {ahead behind : List Block} {b : Block} (hsplit : inOrder old new = ahead ++ b :: behind)
    (hpos : 0 < b.length) (hahead : ∀ c ∈ ahead, c.length < b.length) (hbehind : ∀ c ∈ behind, c.length ≤ b.length) :
    b.FirstLongest old new := by
  have hcases : ∀ c ∈ inOrder old new, c ∈ ahead ∨ c = b ∨ c ∈ behind := by
    intro c hc
    rw [hsplit] at hc
    simpa using hc
  have hmax : ∀ c : Block, c.Common old new → 0 < c.length → (beginning old new c.old c.new).length ≤ b.length := by
    intro c hc hpos
    have hold := hc.old_le
    have hnew := hc.new_le
    obtain hc | hc | hc := hcases _ (Block.mem_inOrder.mpr ⟨c.old, c.new, by omega, by omega, rfl⟩)
    · exact Nat.le_of_lt (hahead _ hc)
    · exact Nat.le_of_eq (congrArg Block.length hc)
    · exact hbehind _ hc
  obtain ⟨i, j, hi, hj, hb⟩ := Block.mem_inOrder.mp (hsplit ▸ List.mem_append_right ahead List.mem_cons_self)
  refine { hb ▸ common_beginning hi hj with pos := hpos, longest := fun c hc => ?_, first := fun c hc hlength => ?_ }
  · obtain hzero | hpos := Nat.eq_zero_or_pos c.length
    · rw [hzero]
      exact Nat.zero_le _
    · exact Nat.le_trans hc.le_beginning (hmax c hc hpos)
  · have hcpos : 0 < c.length := hlength ▸ hpos
    obtain hc | rfl | hc := hcases c (hc.mem_inOrder hcpos (hlength ▸ hmax c hc hcpos))
    · exact absurd hlength (Nat.ne_of_lt (hahead c hc))
    · exact .inl rfl
    · have hordered := hsplit ▸ pairwise_inOrder old new
      exact .inr ((List.pairwise_cons.mp (List.pairwise_append.mp hordered).2.1).1 c hc)

end Block

/-! ## The search -/

open Block (beginning inOrder longer)

theorem zipIdx_map_range {β : Type} (f : Nat → β) (n : Nat) :
    ((List.range n).map f).zipIdx = (List.range n).map fun i => (f i, i) := by
  apply List.ext_getElem <;> simp

theorem longestInRow_eq (i : Nat) (best : Block) :
    longestInRow i best (row (old.drop i) new) = ((List.range new.length).map (beginning old new i)).foldl longer best := by
  rw [longestInRow, row, zipIdx_map_range, List.foldl_map, List.foldl_map]
  rfl

theorem longest_eq (old new : List α) : longest old new = (inOrder old new).foldl longer ⟨0, 0, 0⟩ := by
  rw [longest, runs_eq, zipIdx_map_range, List.foldl_map, inOrder, List.foldl_flatMap]
  simp only [longestInRow_eq]

/-- The search finds the first longest block, or there is no common line. -/
theorem longest_cases (old new : List α) :
    longest old new = ⟨0, 0, 0⟩ ∧ (∀ line ∈ new, line ∉ old) ∨ (longest old new).FirstLongest old new := by
  rw [longest_eq]
  obtain ⟨hnone, hzero⟩ | ⟨ahead, b, behind, hsplit, hfound, hpos, hahead, hbehind⟩ :=
    Block.foldl_longer ⟨0, 0, 0⟩ (inOrder old new)
  · refine .inl ⟨hnone, fun line hnew hold => ?_⟩
    obtain ⟨b, hb, hpos⟩ := Block.exists_mem_inOrder hnew hold
    exact absurd (hzero b hb) (Nat.not_le_of_lt hpos)
  · exact .inr (hfound ▸ Block.firstLongest_of_inOrder hsplit hpos hahead hbehind)

end RiskGauge.ChangedLines
