import Mathlib.Data.List.Basic
import RiskGauge.SyntaxTree

/-!
# The nodes of a tree

A node is within a tree if it is the tree or if it is within one of its parts (`SyntaxTree.Within`). This says
nothing about an order or a stack:

* `exists_mem_walk`: the walk over a tree visits the nodes within it and no others;
* `Within.trans`: what is within a part of a tree is within the tree.
-/

namespace RiskGauge.SyntaxTree

/-- A node within a tree: the tree itself, or a node within one of its parts. -/
inductive Within (s : SyntaxTree) : SyntaxTree → Prop where
  | self : Within s s
  | part {c t : SyntaxTree} (mem : c ∈ t.children) (within : Within s c) : Within s t

theorem within_iff {s t : SyntaxTree} : s.Within t ↔ s = t ∨ ∃ c ∈ t.children, s.Within c := by
  constructor
  · intro h
    cases h with
    | self => exact .inl rfl
    | part mem within => exact .inr ⟨_, mem, within⟩
  · rintro (rfl | ⟨c, mem, within⟩)
    · exact .self
    · exact .part mem within

theorem Within.trans {s t u : SyntaxTree} (hs : s.Within t) (ht : t.Within u) : s.Within u := by
  induction ht with
  | self => exact hs
  | part mem _ ih => exact .part mem ih

/-- From a stack, the nodes within its trees are visited. -/
theorem exists_mem_walkStack {s : SyntaxTree} (stack : List Visit) :
    (∃ v ∈ walkStack stack, v.tree = s) ↔ ∃ u ∈ stack, s.Within u.tree := by
  fun_induction walkStack stack with
  | case1 => simp
  | case2 v stack ih =>
    have hbelow : (∃ u ∈ v.below, s.Within u.tree) ↔ ∃ c ∈ v.tree.children, s.Within c := by
      simp [Visit.below]
    calc (∃ u ∈ v :: walkStack (v.below ++ stack), u.tree = s)
        ↔ v.tree = s ∨ ∃ u ∈ v.below ++ stack, s.Within u.tree := by rw [List.exists_mem_cons_iff, ih]
      _ ↔ (s = v.tree ∨ ∃ c ∈ v.tree.children, s.Within c) ∨ ∃ u ∈ stack, s.Within u.tree := by
        rw [← hbelow, eq_comm, or_assoc]
        simp only [List.mem_append, or_and_right, exists_or]
      _ ↔ ∃ u ∈ v :: stack, s.Within u.tree := by rw [List.exists_mem_cons_iff, ← within_iff]

/-- The walk over a tree visits the nodes within it. -/
theorem exists_mem_walk {s t : SyntaxTree} : (∃ v ∈ t.walk, v.tree = s) ↔ s.Within t := by
  rw [walk, exists_mem_walkStack]
  simp

end RiskGauge.SyntaxTree
