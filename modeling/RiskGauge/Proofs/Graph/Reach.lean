import Mathlib.Algebra.BigOperators.Group.List.Basic
import Mathlib.Algebra.GroupWithZero.Nat
import Mathlib.Order.Bounds.Basic
import RiskGauge.Proofs.Graph.Impact

/-!
# The search for what is reached

`CallGraph.reachable` takes one id after the other from a stack, on which an id can stand more than once and is marked
only when it is taken. Here the search is cut into its rounds (`Search.round`):

* `Search.load_round_lt`: a round uses up an id of the stack or the edges of a node, and these are finitely many, so
  `Search.iterate_round` ends with an empty stack after as many rounds as there are seeds and edges;
* `Search.Covers`, `covers_round`: an edge from an id that was seen leads to one that was seen or is still on the stack;
* `mem_reachable_of_edge`: when the stack is empty, no edge leaves what was seen.
-/

namespace RiskGauge

/-- A search in a graph: the ids that were seen, and those that are still to be looked at, the next one first. -/
structure Search where
  seen : List Int := []
  stack : List Int

namespace Search

variable {g : CallGraph} {s : Search}

/-- One round of a search. An id that was not seen before brings the ids to which its edges lead. -/
def round (g : CallGraph) (s : Search) : Search :=
  match s.stack with
  | [] => s
  | id :: rest =>
    if id ∈ s.seen then { s with stack := rest }
    else { seen := id :: s.seen, stack := (g.targets id).filter (fun t => t ∉ id :: s.seen) ++ rest }

/-- What the search ends with. -/
def result (g : CallGraph) (s : Search) : List Int :=
  g.explore s.seen s.stack

/-- A round does one of three things: nothing, it drops an id, or it follows the edges of an id. -/
theorem round_cases (g : CallGraph) (s : Search) :
    (s.stack = [] ∧ s.round g = s) ∨
    (∃ id rest, s.stack = id :: rest ∧ id ∈ s.seen ∧ s.round g = { s with stack := rest }) ∨
    (∃ id rest, s.stack = id :: rest ∧ id ∉ s.seen ∧
      s.round g = { seen := id :: s.seen, stack := (g.targets id).filter (fun t => t ∉ id :: s.seen) ++ rest }) := by
  obtain ⟨seen, stack⟩ := s
  cases stack with
  | nil => exact .inl ⟨rfl, rfl⟩
  | cons id rest =>
    by_cases h : id ∈ seen
    · exact .inr (.inl ⟨id, rest, rfl, h, by simp [round, h]⟩)
    · exact .inr (.inr ⟨id, rest, rfl, h, by simp [round, h]⟩)

theorem result_round (g : CallGraph) (s : Search) : (s.round g).result g = s.result g := by
  rcases s.round_cases g with ⟨-, hr⟩ | ⟨id, rest, hs, hid, hr⟩ | ⟨id, rest, hs, hid, hr⟩
  · rw [hr]
  · rw [hr, result, result, hs, CallGraph.explore, if_pos hid]
  · rw [hr, result, result, hs, CallGraph.explore, if_neg hid]

/-! ## The search ends -/

/-- The number of edges from the nodes that were not seen. -/
def edgesAhead (g : CallGraph) (seen : List Int) : Nat :=
  ((g.unseen seen).map fun i : Nat => (g.targets i).length).sum

/-- What is left to do: the ids on the stack, and the edges that can still bring ids there. -/
def load (g : CallGraph) (s : Search) : Nat :=
  s.stack.length + edgesAhead g s.seen

/-- The edges of an id that is seen for the first time are no longer ahead. -/
theorem edgesAhead_cons {seen : List Int} {id : Int} (fresh : id ∉ seen) :
    edgesAhead g (id :: seen) + (g.targets id).length = edgesAhead g seen := by
  have hunseen : g.unseen (id :: seen) = (g.unseen seen).filter fun i : Nat => decide ((i : Int) ≠ id) := by
    simp [CallGraph.unseen, List.filter_filter]
  by_cases hid : ∃ i ∈ g.unseen seen, (i : Int) = id
  · obtain ⟨i, hi, rfl⟩ := hid
    have hnodup : (g.unseen seen).Nodup := List.nodup_range.filter _
    have herase : g.unseen ((i : Int) :: seen) = (g.unseen seen).erase i := by
      rw [hunseen, hnodup.erase_eq_filter]
      exact List.filter_congr fun j _ => by simp [bne, beq_eq_decide]
    rw [edgesAhead, edgesAhead, herase, Nat.add_comm]
    exact List.sum_map_erase (fun i : Nat => (g.targets i).length) hi
  · -- an id that is not ahead has no edges
    have hsame : g.unseen (id :: seen) = g.unseen seen := by
      rw [hunseen]
      exact List.filter_eq_self.mpr fun i hi => by simpa using fun e => hid ⟨i, hi, e⟩
    have hnone : g.targets id = [] := by
      by_contra hsome
      have hlt := g.length_unseen_cons_lt seen id fresh hsome
      rw [hsame] at hlt
      exact Nat.lt_irrefl _ hlt
    rw [edgesAhead, edgesAhead, hsame, hnone, List.length_nil, Nat.add_zero]

/-- A round has less left to do, as long as there is something on the stack. -/
theorem load_round_lt (h : s.stack ≠ []) : (s.round g).load g < s.load g := by
  rcases s.round_cases g with ⟨hs, -⟩ | ⟨id, rest, hs, -, hr⟩ | ⟨id, rest, hs, hid, hr⟩
  · exact absurd hs h
  · simp [hr, load, hs]
  · have hfilter := List.length_filter_le (fun t => decide (t ∉ id :: s.seen)) (g.targets id)
    have hahead := edgesAhead_cons (g := g) hid
    simp only [hr, load, hs, List.length_append, List.length_cons]
    omega

theorem result_of_done (h : s.stack = []) : s = { seen := s.result g, stack := [] } := by
  obtain ⟨seen, stack⟩ := s
  subst h
  rw [result, CallGraph.explore]

theorem round_of_done (h : s.stack = []) : s.round g = s := by
  simp [round, h]

/-- A search has an empty stack after as many rounds as it had things left to do, and it stays as it is then. -/
theorem iterate_round (n : Nat) (s : Search) (h : s.load g ≤ n) :
    (round g)^[n] s = { seen := s.result g, stack := [] } := by
  by_cases hs : s.stack = []
  · rw [Function.iterate_fixed (round_of_done hs)]
    exact result_of_done hs
  · have hlt := load_round_lt (g := g) hs
    cases n with
    | zero => omega
    | succ n => rw [Function.iterate_succ_apply, iterate_round n (s.round g) (by omega), result_round]

/-! ## What was seen -/

/-- An edge from an id that was seen leads to one that was seen or that is on the stack. -/
def Covers (g : CallGraph) (s : Search) : Prop :=
  ∀ u ∈ s.seen, ∀ v ∈ g.targets u, v ∈ s.seen ∨ v ∈ s.stack

theorem covers_round (h : s.Covers g) : (s.round g).Covers g := by
  rcases s.round_cases g with ⟨-, hr⟩ | ⟨id, rest, hs, hid, hr⟩ | ⟨id, rest, hs, hid, hr⟩ <;> rw [hr]
  · exact h
  · intro u hu v hv
    rcases h u hu v hv with hv | hv
    · exact .inl hv
    · rw [hs] at hv
      rcases List.mem_cons.mp hv with rfl | hv
      · exact .inl hid
      · exact .inr hv
  · intro u hu v hv
    by_cases hseen : v ∈ id :: s.seen
    · exact .inl hseen
    refine .inr (List.mem_append.mpr ?_)
    rcases List.mem_cons.mp hu with rfl | hu
    · exact .inl (List.mem_filter.mpr ⟨hv, by simpa using hseen⟩)
    · rcases h u hu v hv with hv | hv
      · exact absurd (List.mem_cons_of_mem id hv) hseen
      · rw [hs] at hv
        rcases List.mem_cons.mp hv with rfl | hv
        · exact absurd List.mem_cons_self hseen
        · exact .inr hv

theorem covers_iterate (h : s.Covers g) (n : Nat) : ((round g)^[n] s).Covers g := by
  induction n generalizing s with
  | zero => exact h
  | succ n ih => exact ih (covers_round h)

end Search

namespace CallGraph

variable {g : CallGraph} {seeds : List Int}

/-- No edge leaves what is reached. -/
theorem mem_reachable_of_edge {u v : Int} (hu : u ∈ g.reachable seeds) (hv : v ∈ g.targets u) :
    v ∈ g.reachable seeds := by
  let start : Search := { stack := seeds }
  have hstart : start.Covers g := fun u hu => absurd hu List.not_mem_nil
  have hend := Search.covers_iterate hstart (start.load g)
  rw [Search.iterate_round _ start le_rfl] at hend
  exact (hend u hu v hv).resolve_right List.not_mem_nil

/-- The sets that hold some ids and that no edge leaves. -/
def ClosedSets (g : CallGraph) (seeds : List Int) : Set (Set Int) :=
  { S | (∀ u ∈ seeds, u ∈ S) ∧ ∀ u ∈ S, ∀ v ∈ g.targets u, v ∈ S }

theorem isLeast_reachable (g : CallGraph) (seeds : List Int) :
    IsLeast (g.ClosedSets seeds) { id | id ∈ g.reachable seeds } :=
  ⟨⟨fun _ => mem_reachable_of_mem, fun _ hu _ => mem_reachable_of_edge hu⟩,
    fun _ hS => reachable_subset hS.2 hS.1⟩

/-- The number of edges. -/
def edgeCount (g : CallGraph) : Nat :=
  (g.edges.map List.length).sum

theorem edgesAhead_nil (g : CallGraph) : Search.edgesAhead g [] = g.edgeCount := by
  have hall : g.unseen [] = List.range g.edges.length := by simp [unseen]
  have hlengths : (List.range g.edges.length).map (fun i : Nat => (g.targets i).length) = g.edges.map List.length := by
    apply List.ext_getElem (by simp)
    intro i _ hi
    have hi : i < g.edges.length := by simpa using hi
    simp [targets, hi]
  rw [Search.edgesAhead, hall, hlengths, edgeCount]

/-- What is reached from some ids is exactly the least set that holds them and that no edge leaves, whether the edges
lead in circles or to ids that are no nodes. The search for it is over after as many rounds as there are seeds and edges,
and lists every id once. The same ids are reached if the seeds, or the edges of the nodes, come in another order or more
than once. -/
theorem reachable_exact (g : CallGraph) (seeds : List Int) :
    (∀ n, seeds.length + g.edgeCount ≤ n →
      (Search.round g)^[n] { stack := seeds } = { seen := g.reachable seeds, stack := [] }) ∧
    (g.reachable seeds).Nodup ∧
    IsLeast (g.ClosedSets seeds) { id | id ∈ g.reachable seeds } ∧
    (∀ (h : CallGraph) (others : List Int), (∀ u v, v ∈ h.targets u ↔ v ∈ g.targets u) → (∀ u, u ∈ others ↔ u ∈ seeds) →
      (h.reachable others).Perm (g.reachable seeds)) := by
  refine ⟨fun n hn => ?_, nodup_reachable g seeds, isLeast_reachable g seeds, fun h others htargets hseeds => ?_⟩
  · refine Search.iterate_round n { stack := seeds } ?_
    rw [Search.load, edgesAhead_nil]
    exact hn
  · have hsets : h.ClosedSets others = g.ClosedSets seeds := by
      simp only [ClosedSets, htargets, hseeds]
    have hleast := isLeast_reachable h others
    rw [hsets] at hleast
    exact (List.perm_ext_iff_of_nodup (nodup_reachable h others) (nodup_reachable g seeds)).mpr
      (Set.ext_iff.mp (hleast.unique (isLeast_reachable g seeds)))

/-- Two nodes in a circle, one of which has an edge to itself and one to an id that is no node. -/
def circleGraph : CallGraph where
  unit := "u"
  edges := [[1, 7], [1, 0]]

/-- The same graph with the edges in another order. -/
def turnedGraph : CallGraph where
  unit := "u"
  edges := [[7, 1], [0, 1]]

theorem circleGraph_reachable :
    (Search.round circleGraph)^[7] { stack := [0, -3, 0] } =
      { seen := circleGraph.reachable [0, -3, 0], stack := [] } ∧
    (circleGraph.reachable [0, -3, 0]).Perm [-3, 0, 1, 7] ∧
    (turnedGraph.reachable [-3, 0]).Perm (circleGraph.reachable [0, -3, 0]) := by
  obtain ⟨hrounds, -, -, horder⟩ := reachable_exact circleGraph [0, -3, 0]
  have hseven := hrounds 7 (by decide)
  have hseen : circleGraph.reachable [0, -3, 0] = [-3, 7, 1, 0] := (congrArg Search.seen hseven).symm
  have htargets : ∀ u v, v ∈ turnedGraph.targets u ↔ v ∈ circleGraph.targets u := by
    intro u v
    match u with
    | 0 => simp [turnedGraph, circleGraph, targets, itemAt?, or_comm]
    | 1 => simp [turnedGraph, circleGraph, targets, itemAt?, or_comm]
    | .ofNat (i + 2) => exact Iff.rfl
    | .negSucc i => exact Iff.rfl
  refine ⟨hseven, ?_, horder turnedGraph [-3, 0] htargets fun u => ?_⟩
  · rw [hseen]
    decide
  · simp [or_comm]

end CallGraph

end RiskGauge
