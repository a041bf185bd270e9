import Mathlib.Data.List.Infix
import Mathlib.Order.Bounds.Basic
import RiskGauge.Resource.FunctionBody

/-!
# Braces

A body between braces ends at the brace that closes the opening one: it is the first place behind the opening brace at
which as many braces are closed as opened (`ends_blockEnd`). What carries the proofs is the depth of the scan: it stays
positive from step to step (`step_pos`), and so up to the closing brace (`depth_pos`).

* `count_le_of_prefix_block`: in no beginning of a body there are more closing braces than opening ones;
* `balanced_block`: in a body that is closed there are as many of both;
* `block_append`: what follows the closing brace matters neither for the end of a block nor for its body.
-/

namespace RiskGauge.FunctionBody

variable {text cs w back : List Char} {c : Char} {depth : Int} {i j m n : Nat}

/-- By how much a stretch of text raises the depth: its opening braces less its closing ones. -/
def rise (cs : List Char) : Int :=
  cs.count '\x7b' - cs.count '\x7d'

/-- As many braces are closed as opened in a stretch of text. -/
def Balanced (cs : List Char) : Prop :=
  cs.count '\x7b' = cs.count '\x7d'

@[simp] theorem rise_nil : rise [] = 0 := rfl

theorem rise_append (u v : List Char) : rise (u ++ v) = rise u + rise v := by
  simp only [rise, List.count_append]
  omega

theorem rise_cons (c : Char) (cs : List Char) : rise (c :: cs) = rise [c] + rise cs :=
  rise_append [c] cs

theorem rise_nonneg_iff : 0 ≤ rise cs ↔ cs.count '\x7d' ≤ cs.count '\x7b' := by
  rw [rise]
  omega

theorem balanced_iff : Balanced cs ↔ rise cs = 0 := by
  rw [Balanced, rise]
  omega

/-! ## The depth of the scan -/

/-- The scan stops at a brace that closes the last open one. At any other character it goes on with the depth that the
character leads to. -/
theorem closing?_cons (depth : Int) (c : Char) (rest : List Char) : closing? depth (c :: rest) =
    if c = '\x7d' ∧ depth = 1 then some 0 else (closing? (depth + rise [c]) rest).map (· + 1) := by
  rw [closing?]
  by_cases hopen : c = '\x7b'
  · subst hopen
    rfl
  by_cases hclose : c = '\x7d'
  · subst hclose
    by_cases hdepth : depth = 1
    · simp [hdepth]
    · simp only [hopen, hdepth, if_false, if_true, and_false]
      rfl
  · have hlevel : rise [c] = 0 := by simp [rise, hopen, hclose]
    simp [hopen, hclose, hlevel]

/-- Where the scan goes on, one character does not bring the depth to zero. -/
theorem step_pos (hdepth : 0 < depth) (hgoes : ¬ (c = '\x7d' ∧ depth = 1)) : 0 < depth + rise [c] := by
  by_cases hclose : c = '\x7d'
  · have hlevel : rise [c] = -1 := by rw [hclose]; rfl
    have hdeep : depth ≠ 1 := fun h => hgoes ⟨hclose, h⟩
    omega
  · have hlevel : 0 ≤ rise [c] := rise_nonneg_iff.mpr (by simp [List.count_singleton, hclose])
    omega

/-- The depth is positive as long as the scan has not stopped. -/
theorem depth_pos (hdepth : 0 < depth) (hm : ∀ n ∈ closing? depth cs, m ≤ n) : 0 < depth + rise (cs.take m) := by
  induction cs generalizing depth m with
  | nil => simpa using hdepth
  | cons c rest ih =>
    cases m with
    | zero => simpa using hdepth
    | succ m =>
      rw [closing?_cons] at hm
      split at hm
      · have hzero := hm 0 rfl
        omega
      · rename_i hgoes
        have hrest := ih (step_pos hdepth hgoes) fun n hn => Nat.le_of_succ_le_succ (hm (n + 1) (Option.mem_map_of_mem _ hn))
        rw [List.take_succ_cons, rise_cons]
        omega

/-- The scan stops at a closing brace, and the depth is zero behind it. -/
theorem depth_eq_zero (h : closing? depth cs = some n) :
    cs[n]? = some '\x7d' ∧ depth + rise (cs.take (n + 1)) = 0 := by
  induction cs generalizing depth n with
  | nil => cases h
  | cons c rest ih =>
    rw [closing?_cons] at h
    split at h
    · rename_i hstops
      obtain ⟨rfl, rfl⟩ := hstops
      obtain rfl := Option.some.inj h
      exact ⟨rfl, rfl⟩
    · obtain ⟨k, hk, rfl⟩ := Option.map_eq_some_iff.mp h
      obtain ⟨hclose, hzero⟩ := ih hk
      refine ⟨hclose, ?_⟩
      rw [List.take_succ_cons, rise_cons]
      omega

/-- The scan reads nothing behind the brace at which it stops. -/
theorem closing?_append (h : closing? depth cs = some n) (back : List Char) :
    closing? depth (cs.take (n + 1) ++ back) = some n := by
  induction cs generalizing depth n with
  | nil => cases h
  | cons c rest ih =>
    rw [List.take_succ_cons, List.cons_append, closing?_cons]
    rw [closing?_cons] at h
    split at h
    · rwa [if_pos ‹_›]
    · obtain ⟨k, hk, rfl⟩ := Option.map_eq_some_iff.mp h
      rw [if_neg ‹_›, ih hk]
      rfl

/-! ## The end of a block -/

/-- The indices behind an opening brace up to which, from this brace on, the braces balance. -/
def balances (text : List Char) (i : Nat) : Set Nat :=
  {j | i < j ∧ j < text.length ∧ Balanced (slice text i (j + 1))}

section Block

variable (hopen : text[i]? = some '\x7b')

include hopen

theorem drop_open : text.drop i = '\x7b' :: text.drop (i + 1) := by
  obtain ⟨hi, hbrace⟩ := List.getElem?_eq_some_iff.mp hopen
  rw [List.drop_eq_getElem_cons hi, hbrace]

/-- The scan begins with the opening brace, so behind it the depth is one. -/
theorem blockEnd_eq : blockEnd text i = ((closing? 1 (text.drop (i + 1))).map (i + 1 + ·)).getD text.length := by
  have hfirst : closing? 0 (text.drop i) = (closing? 1 (text.drop (i + 1))).map (· + 1) := by
    rw [drop_open hopen, closing?_cons, if_neg (by decide)]
    rfl
  rw [blockEnd, hfirst]
  cases closing? 1 (text.drop (i + 1)) with
  | none => rfl
  | some n =>
    show i + (n + 1) = i + 1 + n
    omega

theorem blockEnd_of_some (h : closing? 1 (text.drop (i + 1)) = some n) : blockEnd text i = i + 1 + n := by
  rw [blockEnd_eq hopen, h]
  rfl

theorem blockEnd_of_none (h : closing? 1 (text.drop (i + 1)) = none) : blockEnd text i = text.length := by
  rw [blockEnd_eq hopen, h]
  rfl

/-- The braces from the opening one on balance where the depth is zero. -/
theorem mem_balances : j ∈ balances text i ↔
    i < j ∧ j < text.length ∧ 1 + rise ((text.drop (i + 1)).take (j - i)) = 0 := by
  have hslice : i < j → slice text i (j + 1) = '\x7b' :: (text.drop (i + 1)).take (j - i) := by
    intro hij
    rw [slice, drop_open hopen, show j + 1 - i = j - i + 1 by omega, List.take_succ_cons]
  show i < j ∧ j < text.length ∧ Balanced (slice text i (j + 1)) ↔ _
  refine and_congr_right fun hij => and_congr_right fun _ => ?_
  rw [balanced_iff, hslice hij, rise_cons]
  rfl

/-- A block ends at the first index up to which the braces balance, and this is one of a closing brace. Without such an
index it ends with the text. -/
theorem ends_blockEnd :
    IsLeast (balances text i) (blockEnd text i) ∧ text[blockEnd text i]? = some '\x7d' ∨
      balances text i = ∅ ∧ blockEnd text i = text.length := by
  cases h : closing? 1 (text.drop (i + 1)) with
  | some n =>
    obtain ⟨hclose, hzero⟩ := depth_eq_zero h
    rw [List.getElem?_drop] at hclose
    rw [blockEnd_of_some hopen h]
    refine .inl ⟨⟨(mem_balances hopen).mpr ⟨by omega, ?_, ?_⟩, fun j hj => ?_⟩, hclose⟩
    · exact (List.getElem?_eq_some_iff.mp hclose).1
    · rwa [show i + 1 + n - i = n + 1 by omega]
    · obtain ⟨hij, -, hbalance⟩ := (mem_balances hopen).mp hj
      by_contra hbefore
      have hpos := depth_pos (show (0 : Int) < 1 by decide) (m := j - i) fun k hk => by
        rw [h, Option.mem_some_iff] at hk
        omega
      omega
  | none =>
    refine .inr ⟨Set.eq_empty_iff_forall_notMem.mpr fun j hj => ?_, blockEnd_of_none hopen h⟩
    obtain ⟨-, -, hbalance⟩ := (mem_balances hopen).mp hj
    have hpos := depth_pos (show (0 : Int) < 1 by decide) (m := j - i) fun k hk => by
      rw [h] at hk
      cases hk
    omega

/-- In no beginning of a body there are more closing braces than opening ones. -/
theorem count_le_of_prefix_block (hw : w <+: block text i) : w.count '\x7d' ≤ w.count '\x7b' := by
  have hbody : block text i = (text.drop (i + 1)).take (blockEnd text i - (i + 1)) := rfl
  have hlength := hw.length_le
  rw [hbody, List.length_take] at hlength
  have htake : w = (text.drop (i + 1)).take w.length :=
    List.prefix_iff_eq_take.mp (hw.trans (hbody ▸ List.take_prefix ..))
  have hpos := depth_pos (show (0 : Int) < 1 by decide) (m := w.length) fun n hn => by
    rw [blockEnd_of_some hopen hn] at hlength
    omega
  rw [← htake] at hpos
  exact rise_nonneg_iff.mp (by omega)

section Closed

variable (hclosed : blockEnd text i < text.length)

include hclosed

theorem exists_closing : ∃ n, closing? 1 (text.drop (i + 1)) = some n ∧ blockEnd text i = i + 1 + n := by
  cases h : closing? 1 (text.drop (i + 1)) with
  | some n => exact ⟨n, rfl, blockEnd_of_some hopen h⟩
  | none =>
    rw [blockEnd_of_none hopen h] at hclosed
    omega

theorem lt_blockEnd : i < blockEnd text i := by
  obtain ⟨n, -, hend⟩ := exists_closing hopen hclosed
  omega

/-- In a body that is closed, as many braces are closed as opened. -/
theorem balanced_block : Balanced (block text i) := by
  obtain ⟨n, h, hend⟩ := exists_closing hopen hclosed
  obtain ⟨hclose, hzero⟩ := depth_eq_zero h
  have hbody : block text i = (text.drop (i + 1)).take n := by
    rw [block, slice, hend, Nat.add_sub_cancel_left]
  rw [List.take_add_one, hclose, rise_append] at hzero
  have hlast : rise (some '\x7d').toList = -1 := rfl
  rw [balanced_iff, hbody]
  omega

/-- What follows the closing brace matters neither for the end of the block nor for its body. -/
theorem block_append (back : List Char) :
    (text.take (blockEnd text i + 1) ++ back)[i]? = some '\x7b' ∧
      blockEnd (text.take (blockEnd text i + 1) ++ back) i = blockEnd text i ∧
      block (text.take (blockEnd text i + 1) ++ back) i = block text i := by
  obtain ⟨n, h, hend⟩ := exists_closing hopen hclosed
  rw [hend] at hclosed ⊢
  have hlength : (text.take (i + 1 + n + 1)).length = i + 1 + n + 1 := List.length_take_of_le hclosed
  have hopen' : (text.take (i + 1 + n + 1) ++ back)[i]? = some '\x7b' := by
    rw [List.getElem?_append_left (by omega), List.getElem?_take_of_lt (by omega), hopen]
  have hdrop : (text.take (i + 1 + n + 1) ++ back).drop (i + 1) = (text.drop (i + 1)).take (n + 1) ++ back := by
    rw [List.drop_append_of_le_length (by omega), List.drop_take]
    congr 2
    omega
  have hend' : blockEnd (text.take (i + 1 + n + 1) ++ back) i = i + 1 + n := by
    refine blockEnd_of_some hopen' ?_
    rw [hdrop]
    exact closing?_append h back
  refine ⟨hopen', hend', ?_⟩
  have hn : n ≤ ((text.drop (i + 1)).take (n + 1)).length := by
    rw [List.length_take, List.length_drop]
    omega
  rw [block, slice, hend', hdrop, block, slice, hend, Nat.add_sub_cancel_left, List.take_append_of_le_length hn,
    List.take_take, Nat.min_eq_left (Nat.le_succ n)]

end Closed

end Block

end RiskGauge.FunctionBody
