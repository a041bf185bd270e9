import Mathlib.Algebra.BigOperators.Group.List.Basic
import Mathlib.Algebra.Order.BigOperators.GroupWithZero.List
import Mathlib.Data.List.Forall2
import Mathlib.Data.List.Sort
import Mathlib.Tactic.Linarith
import RiskGauge.Detect.Finding
import RiskGauge.Proofs.Exact

/-!
# The strongest findings

The severity of a verdict combines the severities of the strongest findings. Over the numbers of any ordered field it
depends on the severities alone, and not on the order in which the findings come:

* `strengths`: the severities in falling order, of which some first ones count (`severity_ofFindings`);
* `severity_ofFindings_congr`: findings with the same severities in another order give the same;
* `exists_strengths_insert`, `take_dominated`: one more finding shifts the weaker severities by one place, so that
  none of the places has less than before;
* `severity_ofFindings_insert_le`: and so it never lowers the severity of a verdict.
-/

namespace RiskGauge.Verdict

attribute [local instance] Scalar.ofField

variable {K : Type} [Field K] [LinearOrder K]

/-! ## The first items of a list -/

/-- How many of `n` items are the first `k`. -/
def kept (k : Int) (n : Nat) : Nat :=
  if 0 ≤ k then k.toNat else n - (-k).toNat

theorem first_eq_take {β : Type} (k : Int) (xs : List β) : first k xs = xs.take (kept k xs.length) := by
  unfold first kept
  split <;> rfl

theorem kept_mono (k : Int) {m n : Nat} (h : m ≤ n) : kept k m ≤ kept k n := by
  unfold kept
  split <;> omega

/-! ## Severities in falling order -/

/-- The severities of findings, the strongest first. -/
def strengths (fs : List (Finding K)) : List K :=
  (ranked fs).map (·.severity)

theorem perm_strengths (fs : List (Finding K)) : (strengths fs).Perm (fs.map (·.severity)) :=
  (List.mergeSort_perm fs _).map _

theorem pairwise_strengths (fs : List (Finding K)) : (strengths fs).Pairwise (· ≥ ·) := by
  rw [strengths, List.pairwise_map]
  have hsorted : (ranked fs).Pairwise fun a b => decide (b.severity ≤ a.severity) = true := by
    refine List.pairwise_mergeSort ?_ ?_ fs
    · intro a b c hab hbc
      simp only [decide_eq_true_eq] at hab hbc ⊢
      exact hbc.trans hab
    · intro a b
      simp [le_total]
  exact hsorted.imp of_decide_eq_true

theorem severity_ofFindings (k : Int) (reported : Finding K → Bool) (fs : List (Finding K)) :
    (ofFindings k reported fs).severity = either ((strengths fs).take (kept k fs.length)) := by
  have hlength : (ranked fs).length = fs.length := List.length_mergeSort fs
  rw [ofFindings, first_eq_take, hlength, List.map_take]
  rfl

/-- Severities in falling order depend on which severities there are, and on nothing else. -/
theorem strengths_congr {fs gs : List (Finding K)} (h : (fs.map (·.severity)).Perm (gs.map (·.severity))) :
    strengths fs = strengths gs := by
  have hperm := (perm_strengths fs).trans (h.trans (perm_strengths gs).symm)
  exact hperm.eq_of_pairwise' (pairwise_strengths fs) (pairwise_strengths gs)

theorem severity_ofFindings_congr (k : Int) (reported reported' : Finding K → Bool) {fs gs : List (Finding K)}
    (h : (fs.map (·.severity)).Perm (gs.map (·.severity))) :
    (ofFindings k reported fs).severity = (ofFindings k reported' gs).severity := by
  have hlength : fs.length = gs.length := by simpa using h.length_eq
  rw [severity_ofFindings, severity_ofFindings, strengths_congr h, hlength]

/-! ## One more severity -/

/-- The severity of one more finding is put in at a place, and all others stay in their order. -/
theorem exists_strengths_insert (before after : List (Finding K)) (f : Finding K) :
    ∃ above below, strengths (before ++ after) = above ++ below ∧
      strengths (before ++ f :: after) = above ++ f.severity :: below := by
  have hinsert : ((before ++ f :: after).map (·.severity)).Perm (f.severity :: (before ++ after).map (·.severity)) :=
    List.perm_middle.map _
  have hperm := (perm_strengths (before ++ f :: after)).trans hinsert
  have hsorted := pairwise_strengths (before ++ f :: after)
  obtain ⟨above, below, hmore⟩ := List.append_of_mem (hperm.mem_iff.mpr List.mem_cons_self)
  rw [hmore] at hperm hsorted
  refine ⟨above, below, ?_, hmore⟩
  have hrest : (above ++ below).Perm ((before ++ after).map (·.severity)) :=
    (List.perm_middle.symm.trans hperm).cons_inv
  have horder : (above ++ below).Pairwise (· ≥ ·) :=
    hsorted.sublist (List.Sublist.append_left (List.sublist_cons_self f.severity below) above)
  exact ((perm_strengths _).trans hrest.symm).eq_of_pairwise' (pairwise_strengths _) horder

/-- In a falling list, every item is at most the item in its place once a greater one is put in front. -/
theorem take_dominated_cons {x : K} {below : List K} (h : (x :: below).Pairwise (· ≥ ·)) {m n : Nat} (hmn : m ≤ n) :
    List.SublistForall₂ (· ≤ ·) (below.take m) ((x :: below).take n) := by
  induction below generalizing x m n with
  | nil => simp [List.SublistForall₂.nil]
  | cons y below ih =>
    obtain ⟨hx, hbelow⟩ := List.pairwise_cons.mp h
    cases m with
    | zero => exact .nil
    | succ m =>
      cases n with
      | zero => omega
      | succ n => exact .cons (hx y List.mem_cons_self) (ih hbelow (Nat.le_of_succ_le_succ hmn))

/-- The same for an item that is put in at any place of a falling list. -/
theorem take_dominated {x : K} {above below : List K} (h : (above ++ x :: below).Pairwise (· ≥ ·)) {m n : Nat}
    (hmn : m ≤ n) : List.SublistForall₂ (· ≤ ·) ((above ++ below).take m) ((above ++ x :: below).take n) := by
  induction above generalizing m n with
  | nil => exact take_dominated_cons h hmn
  | cons y above ih =>
    cases m with
    | zero => exact .nil
    | succ m =>
      cases n with
      | zero => omega
      | succ n => exact .cons le_rfl (ih (List.pairwise_cons.mp h).2 (Nat.le_of_succ_le_succ hmn))

/-! ## Combined severities -/

variable [IsStrictOrderedRing K]

theorem foldl_either (xs : List K) (start : K) :
    xs.foldl (fun sum s => 1.0 - (1.0 - sum) * (1.0 - s)) start = 1 - (1 - start) * (xs.map (1 - ·)).prod := by
  induction xs generalizing start with
  | nil => simp
  | cons x xs ih =>
    rw [List.foldl_cons, ih]
    norm_num [mul_assoc]

theorem either_eq (xs : List K) : either xs = Scalar.clamp (1 - (xs.map (1 - ·)).prod) := by
  rw [either, foldl_either]
  norm_num

theorem prod_complement_nonneg {xs : List K} (h : ∀ x ∈ xs, x ≤ 1) : 0 ≤ (xs.map (1 - ·)).prod := by
  refine List.prod_nonneg fun y hy => ?_
  obtain ⟨x, hx, rfl⟩ := List.mem_map.mp hy
  exact sub_nonneg.mpr (h x hx)

theorem prod_complement_cons_le {y : K} {ys : List K} (h : ∀ z ∈ y :: ys, 0 ≤ z ∧ z ≤ 1) :
    ((y :: ys).map (1 - ·)).prod ≤ (ys.map (1 - ·)).prod := by
  rw [List.forall_mem_cons] at h
  rw [List.map_cons, List.prod_cons]
  exact mul_le_of_le_one_left (prod_complement_nonneg fun z hz => (h.2 z hz).2) (by linarith)

/-- More and greater severities leave less room for none of them to be true. -/
theorem prod_complement_anti {xs ys : List K} (h : List.SublistForall₂ (· ≤ ·) xs ys)
    (hys : ∀ y ∈ ys, 0 ≤ y ∧ y ≤ 1) : (ys.map (1 - ·)).prod ≤ (xs.map (1 - ·)).prod := by
  induction h with
  | @nil ys =>
    induction ys with
    | nil => rfl
    | cons y ys ih => exact (prod_complement_cons_le hys).trans (ih (List.forall_mem_cons.mp hys).2)
  | @cons x y xs ys hxy h ih =>
    rw [List.forall_mem_cons] at hys
    rw [List.map_cons, List.map_cons, List.prod_cons, List.prod_cons]
    exact mul_le_mul (by linarith) (ih hys.2) (prod_complement_nonneg fun z hz => (hys.2 z hz).2) (by linarith)
  | @cons_right y xs ys h ih => exact (prod_complement_cons_le hys).trans (ih (List.forall_mem_cons.mp hys).2)

theorem either_mono {xs ys : List K} (h : List.SublistForall₂ (· ≤ ·) xs ys) (hys : ∀ y ∈ ys, 0 ≤ y ∧ y ≤ 1) :
    either xs ≤ either ys := by
  rw [either_eq, either_eq]
  exact Scalar.clamp_mono (sub_le_sub_left (prod_complement_anti h hys) 1)

theorem severity_ofFindings_nil (k : Int) (reported : Finding K → Bool) : (ofFindings k reported []).severity = 0 := by
  have hnone : strengths ([] : List (Finding K)) = [] := List.perm_nil.mp (perm_strengths [])
  rw [severity_ofFindings, hnone, List.take_nil, either_eq, List.map_nil, List.prod_nil, sub_self]
  exact Scalar.clamp_of_mem le_rfl zero_le_one

/-- One more finding never lowers the severity of a verdict, however many of the strongest findings count. -/
theorem severity_ofFindings_insert_le (k : Int) (reported reported' : Finding K → Bool) (f : Finding K)
    {before after : List (Finding K)} (hrange : ∀ g ∈ before ++ f :: after, 0 ≤ g.severity ∧ g.severity ≤ 1) :
    (ofFindings k reported (before ++ after)).severity ≤ (ofFindings k reported' (before ++ f :: after)).severity := by
  obtain ⟨above, below, hfewer, hmore⟩ := exists_strengths_insert before after f
  have hall : ∀ y ∈ strengths (before ++ f :: after), 0 ≤ y ∧ y ≤ 1 := by
    intro y hy
    obtain ⟨g, hg, rfl⟩ := List.mem_map.mp ((perm_strengths _).mem_iff.mp hy)
    exact hrange g hg
  have hlength : (before ++ after).length ≤ (before ++ f :: after).length := by simp
  rw [severity_ofFindings, severity_ofFindings]
  refine either_mono ?_ fun y hy => hall y (List.mem_of_mem_take hy)
  rw [hfewer, hmore]
  exact take_dominated (hmore ▸ pairwise_strengths _) (kept_mono k hlength)

end RiskGauge.Verdict
