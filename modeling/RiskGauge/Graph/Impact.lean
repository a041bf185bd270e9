import RiskGauge.Decimal.Write
import RiskGauge.Graph.Basic
import RiskGauge.Scalar

/-!
# The impact of a change

How much of a graph a change reaches: which entry points, how many nodes, and how central they are. The
functionality score blends the three ratios.
-/

namespace RiskGauge

namespace CallGraph

/-- The ids to which the edges of an id lead; none for an id that is no node. -/
def targets (g : CallGraph) (id : Int) : List Int :=
  (itemAt? g.edges id).getD []

/-- The ids with edges that are not in a list. -/
def unseen (g : CallGraph) (seen : List Int) : List Nat :=
  (List.range g.edges.length).filter fun i => (i : Int) ∉ seen

theorem length_unseen_cons_le (g : CallGraph) (seen : List Int) (id : Int) :
    (g.unseen (id :: seen)).length ≤ (g.unseen seen).length := by
  unfold unseen
  rw [← List.countP_eq_length_filter, ← List.countP_eq_length_filter]
  apply List.countP_mono_left
  intro i _ h
  simp only [List.mem_cons, not_or, decide_eq_true_eq] at h ⊢
  exact h.2

theorem length_unseen_cons_lt (g : CallGraph) (seen : List Int) (id : Int) (fresh : id ∉ seen)
    (h : g.targets id ≠ []) : (g.unseen (id :: seen)).length < (g.unseen seen).length := by
  have hid : 0 ≤ id ∧ id.toNat < g.edges.length := by
    unfold targets itemAt? at h
    by_cases h0 : 0 ≤ id
    · refine ⟨h0, ?_⟩
      simp only [h0, if_true] at h
      by_cases hl : id.toNat < g.edges.length
      · exact hl
      · rw [List.getElem?_eq_none (by omega)] at h
        simp at h
    · simp [h0] at h
  have split : g.unseen (id :: seen) = (g.unseen seen).filter (fun i : Nat => decide ((i : Int) ≠ id)) := by
    simp [unseen, List.filter_filter]
  rw [split]
  have member : id.toNat ∈ g.unseen seen := by
    simp only [unseen, List.mem_filter, List.mem_range, decide_eq_true_eq]
    refine ⟨hid.2, ?_⟩
    rw [Int.toNat_of_nonneg hid.1]
    exact fresh
  refine Nat.lt_of_le_of_ne (List.length_filter_le _ _) fun same => ?_
  have := (List.length_filter_eq_length_iff.mp same) id.toNat member
  simp [Int.toNat_of_nonneg hid.1] at this

/-- The ids that are reached from a stack, added to those that were seen. -/
def explore (g : CallGraph) (seen : List Int) : List Int → List Int
  | [] => seen
  | id :: stack =>
    if id ∈ seen then explore g seen stack
    else explore g (id :: seen) ((g.targets id).filter (fun t => t ∉ id :: seen) ++ stack)
termination_by stack => ((g.unseen seen).length, stack.length)
decreasing_by
  · exact Prod.Lex.right _ (by simp)
  · rename_i fresh
    by_cases h : g.targets id = []
    · rw [h]
      rcases Nat.lt_or_eq_of_le (g.length_unseen_cons_le seen id) with hlt | heq
      · exact Prod.Lex.left _ _ hlt
      · rw [heq]
        exact Prod.Lex.right _ (by simp)
    · exact Prod.Lex.left _ _ (g.length_unseen_cons_lt seen id fresh h)

/-- The ids that are reached from given ones, these included. -/
def reachable (g : CallGraph) (seeds : List Int) : List Int :=
  g.explore [] seeds

/-- The number of edges from and to an id. -/
def degree (g : CallGraph) (id : Int) : Nat :=
  (itemAt? g.inDegree id).getD 0 + (itemAt? g.outDegree id).getD 0

section Ratios

variable {α : Type} [Scalar α]

/-- The share of the nodes that is reached. -/
def reachRatio (g : CallGraph) (reach : List Int) : α :=
  Scalar.smaller 1.0 (Scalar.ofNat reach.length / Scalar.ofNat (max 1 g.size))

/-- The share of the entry points that is reached. -/
def entrypointRatio (g : CallGraph) (reach : List Int) : α :=
  Scalar.smaller 1.0
    (Scalar.ofNat (g.entrypoints.countP (· ∈ reach)) / Scalar.ofNat (max 1 g.entrypoints.length))

/-- The mean degree of some ids; zero for none. -/
def meanDegree (g : CallGraph) (ids : List Int) : α :=
  if ids.isEmpty then 0.0 else Scalar.ofNat ((ids.map g.degree).foldl (· + ·) 0) / Scalar.ofNat ids.length

/-- The mean degree of some ids against twice that of all nodes. -/
def centrality (g : CallGraph) (ids : List Int) : α :=
  if g.nodes.isEmpty then 0.0
  else
    let all : α := g.meanDegree g.ids
    if Scalar.isZero all then 0.0 else Scalar.clamp (g.meanDegree ids / (all * 2.0))

end Ratios

end CallGraph

/-- The impact of a change on a graph. -/
structure Functionality (α : Type) where
  score : α
  entrypointRatio : α
  reachRatio : α
  centrality : α
  nodes : Nat := 0
  entrypoints : Nat := 0
deriving Repr

/-- The functionality score of a graph for its changed nodes; none for an empty graph. -/
def CallGraph.functionality? {α : Type} [Scalar α] (g : CallGraph) : Option (Functionality α) :=
  if g.nodes.isEmpty then none
  else
    let reach := g.reachable g.changed
    let entrypointRatio : α := g.entrypointRatio reach
    let reachRatio : α := g.reachRatio reach
    let centrality : α := g.centrality g.changed
    some
      { score := Scalar.clamp (0.5 * entrypointRatio + 0.3 * reachRatio + 0.2 * centrality)
        entrypointRatio, reachRatio, centrality
        nodes := g.size
        entrypoints := g.entrypoints.length }

/-- The impact with its ratios rounded to three places. -/
def Functionality.rounded (f : Functionality Float) : Functionality Float :=
  { f with
    entrypointRatio := Decimal.roundPlaces 3 f.entrypointRatio
    reachRatio := Decimal.roundPlaces 3 f.reachRatio
    centrality := Decimal.roundPlaces 3 f.centrality }

end RiskGauge
