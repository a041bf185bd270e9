import Mathlib.Algebra.BigOperators.Group.List.Basic
import Mathlib.Algebra.GroupWithZero.Nat
import Mathlib.Data.List.Perm.Basic
import Mathlib.Tactic.Linarith
import RiskGauge.Proofs.Exact
import RiskGauge.Proofs.Graph.Build

/-!
# The impact of a change, exactly

What a change reaches, and what the functionality score of a graph is over the rationals:

* `mem_reachable_of_mem`, `reachable_subset`, `nodup_reachable`: the ids that are reached are each listed once, they
  include the seeds, and they stay within every set that holds the seeds and that no edge leaves;
* `functionality?_eq`: the score is the blend of the three ratios, which are between zero and one;
* `exists_wholeImpact`: if everything was changed and the degrees follow the edges, the score depends on two facts
  alone, whether there is an entry point and whether there is an edge.
-/

namespace RiskGauge.CallGraph

/-! ## What is reached -/

section Reach

variable {g : CallGraph} {seen stack : List Int} {id : Int}

theorem mem_explore_of_mem_seen (h : id ∈ seen) (stack : List Int) : id ∈ g.explore seen stack := by
  fun_induction explore g seen stack with
  | case1 => exact h
  | case2 seen u stack _ ih => exact ih h
  | case3 seen u stack _ ih => exact ih (List.mem_cons_of_mem u h)

theorem mem_explore_of_mem_stack (h : id ∈ stack) (seen : List Int) : id ∈ g.explore seen stack := by
  fun_induction explore g seen stack with
  | case1 => cases h
  | case2 seen u stack hu ih =>
    rcases List.mem_cons.mp h with rfl | h
    · exact mem_explore_of_mem_seen hu stack
    · exact ih h
  | case3 seen u stack _ ih =>
    rcases List.mem_cons.mp h with rfl | h
    · exact mem_explore_of_mem_seen List.mem_cons_self _
    · exact ih (List.mem_append_right _ h)

/-- The search stays in a set that holds its stack and that no edge leaves. -/
theorem explore_subset {S : Int → Prop} (hclosed : ∀ u, S u → ∀ v ∈ g.targets u, S v)
    (hseen : ∀ u ∈ seen, S u) (hstack : ∀ u ∈ stack, S u) : ∀ u ∈ g.explore seen stack, S u := by
  fun_induction explore g seen stack with
  | case1 => exact hseen
  | case2 seen u stack _ ih => exact ih hseen fun v hv => hstack v (List.mem_cons_of_mem u hv)
  | case3 seen u stack _ ih =>
    have hu : S u := hstack u List.mem_cons_self
    refine ih (List.forall_mem_cons.mpr ⟨hu, hseen⟩) fun v hv => ?_
    rcases List.mem_append.mp hv with hv | hv
    · exact hclosed u hu v (List.mem_of_mem_filter hv)
    · exact hstack v (List.mem_cons_of_mem u hv)

theorem nodup_explore (h : seen.Nodup) (stack : List Int) : (g.explore seen stack).Nodup := by
  fun_induction explore g seen stack with
  | case1 => exact h
  | case2 seen u stack _ ih => exact ih h
  | case3 seen u stack hu ih => exact ih (List.nodup_cons.mpr ⟨hu, h⟩)

variable {seeds : List Int}

theorem mem_reachable_of_mem (h : id ∈ seeds) : id ∈ g.reachable seeds :=
  mem_explore_of_mem_stack h []

theorem reachable_subset {S : Int → Prop} (hclosed : ∀ u, S u → ∀ v ∈ g.targets u, S v)
    (hseeds : ∀ u ∈ seeds, S u) : ∀ u ∈ g.reachable seeds, S u :=
  explore_subset hclosed (fun _ h => absurd h List.not_mem_nil) hseeds

theorem nodup_reachable (g : CallGraph) (seeds : List Int) : (g.reachable seeds).Nodup :=
  nodup_explore List.nodup_nil seeds

theorem reachable_nil (g : CallGraph) : g.reachable [] = [] := by
  unfold reachable explore
  rfl

/-- From seeds that no edge leaves, the seeds are reached and nothing else. -/
theorem perm_reachable (hnodup : seeds.Nodup) (hclosed : ∀ u ∈ seeds, ∀ v ∈ g.targets u, v ∈ seeds) :
    (g.reachable seeds).Perm seeds :=
  (List.perm_ext_iff_of_nodup (nodup_reachable g seeds) hnodup).mpr fun id =>
    ⟨reachable_subset hclosed (fun _ h => h) id, mem_reachable_of_mem⟩

end Reach

/-! ## The ratios and the score -/

section Ratios

variable (g : CallGraph)

theorem reachRatio_eq (reach : List Int) :
    (g.reachRatio reach : ℚ) = min 1 ((reach.length : ℚ) / (max 1 g.size : ℕ)) := by
  unfold reachRatio
  rw [Scalar.smaller_eq_min]
  norm_num

theorem entrypointRatio_eq (reach : List Int) :
    (g.entrypointRatio reach : ℚ) =
      min 1 ((g.entrypoints.countP (· ∈ reach) : ℚ) / (max 1 g.entrypoints.length : ℕ)) := by
  unfold entrypointRatio
  rw [Scalar.smaller_eq_min]
  norm_num

theorem meanDegree_eq (ids : List Int) :
    (g.meanDegree ids : ℚ) = ((ids.map g.degree).sum : ℕ) / (ids.length : ℚ) := by
  unfold meanDegree
  rw [← List.sum_eq_foldl]
  cases ids with
  | nil => norm_num
  | cons id ids => rfl

/-- An empty graph and one without degrees divide by zero, and so have no centrality. -/
theorem centrality_eq (ids : List Int) :
    (g.centrality ids : ℚ) = Scalar.clamp (g.meanDegree ids / (g.meanDegree g.ids * 2) : ℚ) := by
  have hzero : (Scalar.clamp (0 : ℚ)) = 0 := Scalar.clamp_of_mem le_rfl zero_le_one
  unfold centrality
  split
  · rename_i hnone
    have hids : g.ids = [] := by simpa [CallGraph.ids, size] using hnone
    rw [hids, meanDegree_eq g []]
    norm_num [hzero]
  · dsimp only
    split
    · rename_i hmean
      have hmean : (g.meanDegree g.ids : ℚ) = 0 := by simpa using hmean
      norm_num [hmean, hzero]
    · norm_num

theorem reachRatio_nonneg (reach : List Int) : (0 : ℚ) ≤ g.reachRatio reach := by
  rw [reachRatio_eq]
  positivity

theorem entrypointRatio_nonneg (reach : List Int) : (0 : ℚ) ≤ g.entrypointRatio reach := by
  rw [entrypointRatio_eq]
  positivity

theorem centrality_nonneg (ids : List Int) : (0 : ℚ) ≤ g.centrality ids := by
  rw [centrality_eq]
  exact Scalar.clamp_nonneg _

theorem reachRatio_le_one (reach : List Int) : (g.reachRatio reach : ℚ) ≤ 1 := by
  rw [reachRatio_eq]
  exact min_le_left _ _

theorem entrypointRatio_le_one (reach : List Int) : (g.entrypointRatio reach : ℚ) ≤ 1 := by
  rw [entrypointRatio_eq]
  exact min_le_left _ _

theorem centrality_le_one (ids : List Int) : (g.centrality ids : ℚ) ≤ 1 := by
  rw [centrality_eq]
  exact Scalar.clamp_le_one _

/-- The impact of a graph with nodes: nothing is cut off the blend. -/
theorem functionality?_eq {g : CallGraph} (h : g.nodes ≠ []) :
    (g.functionality? : Option (Functionality ℚ)) = some
      { score := 1 / 2 * g.entrypointRatio (g.reachable g.changed) + 3 / 10 * g.reachRatio (g.reachable g.changed)
          + 1 / 5 * g.centrality g.changed
        entrypointRatio := g.entrypointRatio (g.reachable g.changed)
        reachRatio := g.reachRatio (g.reachable g.changed)
        centrality := g.centrality g.changed
        nodes := g.size
        entrypoints := g.entrypoints.length } := by
  have he₀ := g.entrypointRatio_nonneg (g.reachable g.changed)
  have hr₀ := g.reachRatio_nonneg (g.reachable g.changed)
  have hc₀ := g.centrality_nonneg g.changed
  have he₁ := g.entrypointRatio_le_one (g.reachable g.changed)
  have hr₁ := g.reachRatio_le_one (g.reachable g.changed)
  have hc₁ := g.centrality_le_one g.changed
  have hblend : (0.5 * g.entrypointRatio (g.reachable g.changed) + 0.3 * g.reachRatio (g.reachable g.changed)
      + 0.2 * g.centrality g.changed : ℚ) =
      1 / 2 * g.entrypointRatio (g.reachable g.changed) + 3 / 10 * g.reachRatio (g.reachable g.changed)
        + 1 / 5 * g.centrality g.changed := by norm_num
  unfold functionality?
  rw [if_neg (by simpa using h)]
  simp only [hblend]
  rw [Scalar.clamp_of_mem (by positivity) (by linarith)]

end Ratios

/-! ## Everything is changed -/

/-- There is an edge. -/
def HasEdge (g : CallGraph) : Prop :=
  ∃ ts ∈ g.edges, ts ≠ []

instance (g : CallGraph) : Decidable g.HasEdge :=
  inferInstanceAs (Decidable (∃ ts ∈ g.edges, ts ≠ []))

theorem hasEdge_iff {g : CallGraph} : g.HasEdge ↔ ∃ source target, target ∈ g.targets source := by
  constructor
  · rintro ⟨ts, hts, hne⟩
    obtain ⟨i, hi⟩ := List.mem_iff_getElem?.mp hts
    obtain ⟨target, htarget⟩ := List.exists_mem_of_ne_nil ts hne
    exact ⟨i, target, mem_targets.mpr ⟨i, rfl, ts, hi, htarget⟩⟩
  · rintro ⟨source, target, hmem⟩
    obtain ⟨i, -, ts, hts, htarget⟩ := mem_targets.mp hmem
    exact ⟨ts, List.mem_of_getElem? hts, List.ne_nil_of_mem htarget⟩

/-- The degrees follow the edges: at its source every edge is counted, and at its target at most once. -/
structure DegreesFollowEdges (g : CallGraph) : Prop where
  outDegree_eq : ∀ id ∈ g.ids, (itemAt? g.outDegree id).getD 0 = (g.targets id).length
  inDegree_le : ∀ id ∈ g.ids, (itemAt? g.inDegree id).getD 0 ≤ (g.callers id).length

theorem Accounts.degreesFollowEdges {g : CallGraph} {missed : Int → Nat} (h : g.Accounts missed) :
    g.DegreesFollowEdges where
  outDegree_eq := by
    intro id hid
    rw [(h.outDegree_eq id hid).2, Option.getD_some]
  inDegree_le := by
    intro id hid
    obtain ⟨n, hn, hadd⟩ := h.inDegree_add id hid
    rw [hn, Option.getD_some]
    omega

theorem Accounts.source_mem_ids {g : CallGraph} {missed : Int → Nat} (h : g.Accounts missed)
    {source target : Int} (hmem : target ∈ g.targets source) : source ∈ g.ids := by
  obtain ⟨i, rfl, ts, hts, -⟩ := mem_targets.mp hmem
  rw [← h.edges_known, itemAt?_natCast, hts]
  rfl

section Whole

variable {g : CallGraph}

/-- There are degrees exactly if there are edges: an edge that is not counted at its target is at its source. -/
theorem sum_degree_eq_zero_iff (h : g.DegreesFollowEdges)
    (hsources : ∀ source, ∀ target ∈ g.targets source, source ∈ g.ids) :
    (g.ids.map g.degree).sum = 0 ↔ ¬ g.HasEdge := by
  rw [List.sum_eq_zero_iff_forall_eq_nat, List.forall_mem_map, hasEdge_iff]
  constructor
  · rintro hzero ⟨source, target, hmem⟩
    have hdegree := hzero source (hsources source target hmem)
    have hout := h.outDegree_eq source (hsources source target hmem)
    have hpos := List.length_pos_of_mem hmem
    unfold degree at hdegree
    omega
  · intro hnone id hid
    have htargets : ∀ source target, target ∉ g.targets source := by simpa using hnone
    have hout := h.outDegree_eq id hid
    have hin := h.inDegree_le id hid
    rw [List.eq_nil_iff_forall_not_mem.mpr (htargets id), List.length_nil] at hout
    simp only [callers, htargets, decide_false, List.filter_false, List.length_nil] at hin
    unfold degree
    omega

theorem meanDegree_perm (g : CallGraph) {xs ys : List Int} (h : xs.Perm ys) :
    (g.meanDegree xs : ℚ) = g.meanDegree ys := by
  rw [meanDegree_eq, meanDegree_eq, (h.map g.degree).sum_eq, h.length_eq]

theorem reachRatio_whole {reach : List Int} (h : reach.length = g.size) (hnodes : g.nodes ≠ []) :
    (g.reachRatio reach : ℚ) = 1 := by
  have hsize : 1 ≤ g.size := List.length_pos_iff.mpr hnodes
  have hpos : (g.size : ℚ) ≠ 0 := by exact_mod_cast Nat.one_le_iff_ne_zero.mp hsize
  rw [reachRatio_eq, h, max_eq_right hsize, div_self hpos, min_self]

theorem entrypointRatio_whole {reach : List Int} (h : ∀ id ∈ g.entrypoints, id ∈ reach) :
    (g.entrypointRatio reach : ℚ) = if g.entrypoints = [] then 0 else 1 := by
  have hcount : g.entrypoints.countP (· ∈ reach) = g.entrypoints.length :=
    List.countP_eq_length.mpr (by simpa using h)
  rw [entrypointRatio_eq, hcount]
  split
  · rename_i hnone
    simp [hnone]
  · rename_i hsome
    have hlen : 1 ≤ g.entrypoints.length := List.length_pos_iff.mpr hsome
    have hpos : (g.entrypoints.length : ℚ) ≠ 0 := by exact_mod_cast Nat.one_le_iff_ne_zero.mp hlen
    rw [max_eq_right hlen, div_self hpos, min_self]

theorem centrality_whole (h : g.DegreesFollowEdges)
    (hsources : ∀ source, ∀ target ∈ g.targets source, source ∈ g.ids) (hnodes : g.nodes ≠ [])
    {changed : List Int} (hchanged : changed.Perm g.ids) :
    (g.centrality changed : ℚ) = if g.HasEdge then 1 / 2 else 0 := by
  have hlen : (g.ids.length : ℚ) ≠ 0 := by simpa [ids, size] using hnodes
  have hmean : (g.meanDegree g.ids : ℚ) = 0 ↔ ¬ g.HasEdge := by
    rw [meanDegree_eq, div_eq_zero_iff, or_iff_left hlen, Nat.cast_eq_zero, sum_degree_eq_zero_iff h hsources]
  rw [centrality_eq, g.meanDegree_perm hchanged]
  split
  · rename_i hedge
    have hne : (g.meanDegree g.ids : ℚ) ≠ 0 := fun hzero => hmean.mp hzero hedge
    rw [div_mul_cancel_left₀ hne, Scalar.clamp_of_mem (by norm_num) (by norm_num)]
    norm_num
  · rename_i hedge
    rw [hmean.mpr hedge, zero_div]
    exact Scalar.clamp_of_mem le_rfl zero_le_one

/-- The impact on a graph if all of its nodes were changed. -/
structure WholeImpact (g : CallGraph) (f : Functionality ℚ) : Prop where
  entrypointRatio : f.entrypointRatio = if g.entrypoints = [] then 0 else 1
  reachRatio : f.reachRatio = 1
  centrality : f.centrality = if g.HasEdge then 1 / 2 else 0
  score : f.score =
    if g.entrypoints = [] then (if g.HasEdge then 4 / 10 else 3 / 10) else (if g.HasEdge then 9 / 10 else 8 / 10)

theorem exists_wholeImpact (h : g.DegreesFollowEdges) (hnodes : g.nodes ≠ [])
    (hedges : ∀ source, ∀ target ∈ g.targets source, source ∈ g.ids ∧ target ∈ g.ids)
    (hentries : ∀ id ∈ g.entrypoints, id ∈ g.ids) (hchanged : g.changed.Perm g.ids) :
    ∃ f, g.functionality? = some f ∧ WholeImpact g f := by
  have hids : g.ids.Nodup := List.nodup_range.map Int.ofNat_injective
  have hclosed : ∀ u ∈ g.changed, ∀ v ∈ g.targets u, v ∈ g.changed :=
    fun u _ v hv => hchanged.mem_iff.mpr (hedges u v hv).2
  have hreach : (g.reachable g.changed).Perm g.ids :=
    (perm_reachable (hchanged.nodup_iff.mpr hids) hclosed).trans hchanged
  have hentry : (g.entrypointRatio (g.reachable g.changed) : ℚ) = if g.entrypoints = [] then 0 else 1 :=
    entrypointRatio_whole fun id hid => hreach.mem_iff.mpr (hentries id hid)
  have hratio : (g.reachRatio (g.reachable g.changed) : ℚ) = 1 :=
    reachRatio_whole (by rw [hreach.length_eq]; simp [ids]) hnodes
  have hcentral := centrality_whole h (fun u v hv => (hedges u v hv).1) hnodes hchanged
  refine ⟨_, functionality?_eq hnodes, hentry, hratio, hcentral, ?_⟩
  simp only [hentry, hratio, hcentral]
  split_ifs <;> norm_num

/-- If everything was changed, the impact is told by whether there is an entry point and whether there is an edge:
for every source without an earlier version, for every graph between nodes whose degrees follow its edges, and so for
every graph that any calls make, whatever its entry points. -/
theorem functionality_whole_change :
    (∀ (reader : SourceReader) (unit : String) (grammar : Grammar) (source : List Char),
      (build reader unit grammar source none).nodes ≠ [] →
      ∃ f, (build reader unit grammar source none).functionality? = some f ∧
        WholeImpact (build reader unit grammar source none) f) ∧
    (∀ g : CallGraph, g.DegreesFollowEdges → g.nodes ≠ [] →
      (∀ source, ∀ target ∈ g.targets source, source ∈ g.ids ∧ target ∈ g.ids) →
      (∀ id ∈ g.entrypoints, id ∈ g.ids) → g.changed.Perm g.ids →
      ∃ f, g.functionality? = some f ∧ WholeImpact g f) ∧
    (∀ (unit : String) (calls : List GraphCall) (g : CallGraph) (entrypoints changed : List Int),
      g = { (GraphRun.ofCalls unit calls).graph with entrypoints, changed } → g.nodes ≠ [] →
      (∀ source ∈ g.ids, ∀ target ∈ g.targets source, target ∈ g.ids) → (∀ id ∈ g.entrypoints, id ∈ g.ids) →
      g.changed.Perm g.ids → ∃ f, g.functionality? = some f ∧ WholeImpact g f) := by
  refine ⟨?_, fun g => exists_wholeImpact, ?_⟩
  · intro reader unit grammar source hnodes
    have hsettled := settled_build reader unit grammar source none
    refine exists_wholeImpact hsettled.accounts.degreesFollowEdges hnodes
      (fun _ _ hmem => ⟨hsettled.accounts.source_mem_ids hmem, hsettled.mem_ids_of_mem_targets rfl hmem⟩)
      (fun id hid => ?_) ?_
    · obtain ⟨i, n, rfl, hn, -⟩ := ((describes_build reader unit grammar source none).entrypoints id).mp hid
      exact mem_ids.mpr ⟨i, (List.getElem?_eq_some_iff.mp hn).1, rfl⟩
    · rw [build_eq]
      exact List.Perm.refl _
  · rintro unit calls g entrypoints changed rfl hnodes hedges hentries hchanged
    have haccounts := (balanced_mark (GraphRun.balanced_ofCalls unit calls) entrypoints changed).accounts
    refine exists_wholeImpact haccounts.degreesFollowEdges hnodes (fun source target hmem => ?_) hentries hchanged
    have hsource := haccounts.source_mem_ids hmem
    exact ⟨hsource, hedges source hsource target hmem⟩

/-- An entry point that calls a helper. -/
def entrySource : List Char :=
  "export function handler() { return helper(); }\nfunction helper() { return 1; }".toList

/-- Two nodes, the second one without a row of edges: no calls make this graph. -/
def pairGraph : CallGraph where
  unit := "u"
  nodes := [.plain "a", .plain "b"]
  edges := [[1]]
  inDegree := [0, 1]
  outDegree := [1]
  entrypoints := [1]
  changed := [1, 0]

theorem targets_pairGraph {source target : Int} (h : target ∈ pairGraph.targets source) :
    source ∈ pairGraph.ids ∧ target ∈ pairGraph.ids := by
  obtain ⟨i, rfl, ts, hts, htarget⟩ := mem_targets.mp h
  have hi : i < pairGraph.edges.length := (List.getElem?_eq_some_iff.mp hts).1
  obtain rfl : i = 0 := Nat.lt_one_iff.mp hi
  obtain rfl : [1] = ts := by simpa [pairGraph] using hts
  obtain rfl : target = 1 := by simpa using htarget
  decide

/-- Two nodes, the second one added after an edge to it, and with an edge to itself. -/
def loopCalls : List GraphCall :=
  [.node (.plain "a"), .edge 0 1, .node (.plain "b"), .edge 1 1]

theorem whole_change_scores :
    (∃ f : Functionality ℚ, (build Script.parse "snippet.ts" .typescript entrySource none).functionality? = some f ∧
      f.score = 9 / 10) ∧
    (∃ f : Functionality ℚ, pairGraph.functionality? = some f ∧ f.score = 9 / 10) ∧
    (∃ f : Functionality ℚ, CallGraph.functionality?
      { (GraphRun.ofCalls "u" loopCalls).graph with entrypoints := [], changed := [1, 0] } = some f ∧
      f.score = 4 / 10) := by
  refine ⟨?_, ?_, ?_⟩
  · obtain ⟨f, hf, himpact⟩ := functionality_whole_change.1 Script.parse "snippet.ts" .typescript entrySource
      (by decide +kernel)
    have hentry : (build Script.parse "snippet.ts" .typescript entrySource none).entrypoints ≠ [] := by decide +kernel
    have hedge : (build Script.parse "snippet.ts" .typescript entrySource none).HasEdge := by decide +kernel
    exact ⟨f, hf, by rw [himpact.score, if_neg hentry, if_pos hedge]⟩
  · obtain ⟨f, hf, himpact⟩ := functionality_whole_change.2.1 pairGraph ⟨by decide, by decide⟩ (by decide)
      (fun _ _ => targets_pairGraph) (by decide) (by decide)
    exact ⟨f, hf, himpact.score⟩
  · obtain ⟨f, hf, himpact⟩ := functionality_whole_change.2.2 "u" loopCalls _ [] [1, 0] rfl (by decide) (by decide)
      (by decide) (by decide)
    exact ⟨f, hf, himpact.score⟩

end Whole

end RiskGauge.CallGraph
