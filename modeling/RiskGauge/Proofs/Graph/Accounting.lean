import Mathlib.Algebra.GroupWithZero.Nat
import Mathlib.Data.List.NodupEquivFin
import RiskGauge.Graph.Impact

/-!
# Keeping the accounts of a call graph

A call graph is made by calls that add nodes and edges (`GraphCall`). A call that adds an edge can fail after it
has put the edge, if the target is no node yet; the id may become a node later. `GraphRun` is a graph together
with the calls that failed so far:

* `addNode_cases`, `addEdge_cases`: all that one call can do;
* `Tidy`: every node has its key, its row of edges and its degrees;
* `GraphRun.Balanced`: the accounts of a run, kept by every call (`Balanced.call`) and so by every run
  (`balanced_ofCalls`);
* `accounts_ofCalls`: what the accounts say about a graph, after any calls.
-/

namespace RiskGauge

namespace CallGraph

/-! ## Ids and places -/

section Places

variable {α : Type} {xs : List α} {a : α}

@[simp] theorem itemAt?_natCast (xs : List α) (i : Nat) : itemAt? xs (i : Int) = xs[i]? := by
  simp [itemAt?]

@[simp] theorem changeAt_natCast (f : α → α) (xs : List α) (i : Nat) :
    changeAt f xs (i : Int) = xs.modify i f := by
  simp [changeAt]

theorem itemAt?_eq_some {id : Int} : itemAt? xs id = some a ↔ ∃ i : Nat, id = i ∧ xs[i]? = some a := by
  constructor
  · intro h
    unfold itemAt? at h
    split at h
    · rename_i h0
      exact ⟨id.toNat, (Int.toNat_of_nonneg h0).symm, h⟩
    · cases h
  · rintro ⟨i, rfl, h⟩
    rw [itemAt?_natCast, h]

theorem isSome_itemAt? {id : Int} : (itemAt? xs id).isSome ↔ ∃ i : Nat, i < xs.length ∧ id = i := by
  rw [Option.isSome_iff_exists]
  constructor
  · rintro ⟨a, h⟩
    obtain ⟨i, rfl, hi⟩ := itemAt?_eq_some.mp h
    exact ⟨i, (List.getElem?_eq_some_iff.mp hi).1, rfl⟩
  · rintro ⟨i, hi, rfl⟩
    exact ⟨xs[i], itemAt?_eq_some.mpr ⟨i, rfl, List.getElem?_eq_getElem hi⟩⟩

/-- A list with one entry changed, cut at that entry. -/
theorem modify_split {i : Nat} (h : xs[i]? = some a) (f : α → α) :
    ∃ front back, xs = front ++ a :: back ∧ xs.modify i f = front ++ f a :: back := by
  obtain ⟨hi, rfl⟩ := List.getElem?_eq_some_iff.mp h
  obtain ⟨front, b, back, hxs, hlen, hmod⟩ := List.exists_of_modify f hi
  have hb : xs[i] = b := by simp [hxs, hlen.symm]
  exact ⟨front, back, hb ▸ hxs, hb ▸ hmod⟩

end Places

theorem mem_targets {g : CallGraph} {source target : Int} :
    target ∈ g.targets source ↔ ∃ i : Nat, source = i ∧ ∃ ts, g.edges[i]? = some ts ∧ target ∈ ts := by
  unfold targets
  constructor
  · intro h
    cases hs : itemAt? g.edges source with
    | none => simp [hs] at h
    | some ts =>
      obtain ⟨i, rfl, hi⟩ := itemAt?_eq_some.mp hs
      exact ⟨i, rfl, ts, hi, by simpa [hs] using h⟩
  · rintro ⟨i, rfl, ts, hi, h⟩
    simpa [hi] using h

theorem mem_ids {g : CallGraph} {id : Int} : id ∈ g.ids ↔ ∃ i : Nat, i < g.size ∧ id = i := by
  simp only [ids, List.mem_map, List.mem_range, Int.ofNat_eq_natCast]
  constructor
  · rintro ⟨i, hi, rfl⟩
    exact ⟨i, hi, rfl⟩
  · rintro ⟨i, hi, rfl⟩
    exact ⟨i, hi, rfl⟩

/-- The keys of the nodes, in the order of their ids. -/
def keys (g : CallGraph) : List NodeKey :=
  g.nodes.map (·.key)

theorem length_keys (g : CallGraph) : g.keys.length = g.size := by
  simp [keys, size]

/-! ## What one call can do -/

/-- The edge put in its place, with the degree of its source, but not yet that of its target. -/
def putEdge (g : CallGraph) (i : Nat) (target : Int) : CallGraph :=
  { g with edges := g.edges.modify i (· ++ [target]), outDegree := g.outDegree.modify i (· + 1) }

/-- Adding a node finds its key, or puts a node without edges at the end. -/
theorem addNode_cases (g : CallGraph) (n : GraphNode) :
    (∃ i, g.index? n.key = some i ∧ (g.addNode n).1 = { g with
      nodes := g.nodes.modify i fun old => { old with exported := old.exported || n.exported } }) ∨
    (n.key ∉ g.keys ∧ (g.addNode n).1 = { g with
      nodes := g.nodes ++ [n]
      edges := g.edges ++ [[]]
      inDegree := g.inDegree ++ [0]
      outDegree := g.outDegree ++ [0] }) := by
  unfold addNode
  split
  · rename_i i hi
    exact .inl ⟨i, hi, rfl⟩
  · rename_i hnone
    refine .inr ⟨?_, rfl⟩
    simp only [index?, List.findIdx?_eq_none_iff, decide_eq_false_iff_not] at hnone
    simpa [keys] using hnone

/-- Adding an edge finds no source, finds the edge, puts the edge and finds no target, or puts it and counts it at
both ends. -/
theorem addEdge_cases (g : CallGraph) (source target : Int) :
    ((itemAt? g.edges source).isSome = false ∧
      g.addEdge source target = (g, .error (.unknownId source))) ∨
    (∃ i : Nat, ∃ ts, source = i ∧ g.edges[i]? = some ts ∧
      ((target ∈ ts ∧ g.addEdge source target = (g, .ok false)) ∨
       (target ∉ ts ∧ (itemAt? g.inDegree target).isSome = false ∧
         g.addEdge source target = (g.putEdge i target, .error (.unknownId target))) ∨
       (target ∉ ts ∧ ∃ j : Nat, target = j ∧ j < g.inDegree.length ∧
         g.addEdge source target =
           ({ g.putEdge i target with inDegree := g.inDegree.modify j (· + 1) }, .ok true)))) := by
  cases hs : itemAt? g.edges source with
  | none => exact .inl ⟨rfl, by simp [addEdge, hs]⟩
  | some ts =>
    obtain ⟨i, rfl, hi⟩ := itemAt?_eq_some.mp hs
    refine .inr ⟨i, ts, rfl, hi, ?_⟩
    by_cases hmem : target ∈ ts
    · exact .inl ⟨hmem, by simp [addEdge, hi, hmem]⟩
    · cases ht : itemAt? g.inDegree target with
      | none => exact .inr (.inl ⟨hmem, rfl, by simp [addEdge, putEdge, hi, hmem, ht]⟩)
      | some k =>
        obtain ⟨j, rfl, hj⟩ := itemAt?_eq_some.mp ht
        exact .inr (.inr ⟨hmem, j, rfl, (List.getElem?_eq_some_iff.mp hj).1,
          by simp [addEdge, putEdge, hi, hmem, hj]⟩)

/-- A graph in which every node has one key, one row of different targets, and its degrees. -/
structure Tidy (g : CallGraph) : Prop where
  edges_length : g.edges.length = g.size
  inDegree_length : g.inDegree.length = g.size
  keys_nodup : g.keys.Nodup
  targets_nodup : ∀ ts ∈ g.edges, ts.Nodup
  outDegree_eq : g.outDegree = g.edges.map List.length

/-! ## What a node changes -/

theorem keys_modify (g : CallGraph) (i : Nat) (exported : Bool) :
    (g.nodes.modify i fun old => { old with exported := old.exported || exported }).map (·.key) = g.keys := by
  apply List.ext_getElem?
  intro k
  simp only [keys, List.getElem?_map, List.getElem?_modify]
  by_cases hk : i = k <;> cases g.nodes[k]? <;> simp [hk]

theorem Tidy.addNode {g : CallGraph} (h : g.Tidy) (n : GraphNode) : (g.addNode n).1.Tidy := by
  rcases g.addNode_cases n with ⟨i, -, hg⟩ | ⟨hnew, hg⟩ <;> rw [hg]
  · exact
      { h with
        edges_length := by simpa [size] using h.edges_length
        inDegree_length := by simpa [size] using h.inDegree_length
        keys_nodup := by simpa only [keys, keys_modify] using h.keys_nodup }
  · have hkeys : (g.keys ++ [n.key]).Nodup :=
      h.keys_nodup.append (List.nodup_singleton n.key) (by simpa using hnew)
    exact
      { edges_length := by simpa [size] using h.edges_length
        inDegree_length := by simpa [size] using h.inDegree_length
        keys_nodup := by simpa [keys] using hkeys
        targets_nodup := by
          intro ts hts
          rcases List.mem_append.mp hts with hts | hts
          · exact h.targets_nodup ts hts
          · rw [List.mem_singleton.mp hts]
            exact List.nodup_nil
        outDegree_eq := by simp [h.outDegree_eq] }

/-- A new entry that is the default is as good as none. -/
theorem itemAt?_append_default {α : Type} (xs : List α) (a : α) (id : Int) :
    (itemAt? (xs ++ [a]) id).getD a = (itemAt? xs id).getD a := by
  by_cases hid : 0 ≤ id
  · obtain ⟨k, rfl⟩ := Int.eq_ofNat_of_zero_le hid
    simp only [itemAt?_natCast, List.getElem?_append]
    split
    · rfl
    · rename_i hk
      rw [List.getElem?_eq_none (show xs.length ≤ k by omega)]
      cases hlast : [a][k - xs.length]? with
      | none => rfl
      | some b => simpa using List.mem_of_getElem? hlast
  · simp [itemAt?, hid]

/-! ## What a put edge changes -/

section PutEdge

variable {g : CallGraph} {i : Nat} {ts : List Int} {target : Int}

theorem targets_nodup_putEdge (h : g.edges[i]? = some ts) (hnew : target ∉ ts)
    (hnodup : ∀ us ∈ g.edges, us.Nodup) : ∀ us ∈ (g.putEdge i target).edges, us.Nodup := by
  obtain ⟨front, back, hedges, hmod⟩ := modify_split h (· ++ [target])
  have hts : ts.Nodup := hnodup ts (by simp [hedges])
  have hput : (ts ++ [target]).Nodup := hts.append (List.nodup_singleton target) (by simpa using hnew)
  intro us hus
  simp only [putEdge, hmod, List.mem_append, List.mem_cons] at hus
  rcases hus with hus | rfl | hus
  · exact hnodup us (by simp [hedges, hus])
  · exact hput
  · exact hnodup us (by simp [hedges, hus])

theorem countP_putEdge (h : g.edges[i]? = some ts) (hnew : target ∉ ts) (id : Int) :
    (g.putEdge i target).edges.countP (id ∈ ·) = g.edges.countP (id ∈ ·) + if target = id then 1 else 0 := by
  obtain ⟨front, back, hedges, hmod⟩ := modify_split h (· ++ [target])
  simp only [putEdge, hmod]
  rw [hedges]
  simp only [List.countP_append, List.countP_cons, List.mem_append, List.mem_singleton, decide_eq_true_eq]
  by_cases hid : target = id
  · subst hid
    simp only [hnew, or_true, if_true, if_false, Nat.add_zero]
    omega
  · have hne : ¬ id = target := fun e => hid e.symm
    simp [hid, hne]

theorem outDegree_putEdge (h : g.outDegree = g.edges.map List.length) :
    (g.putEdge i target).outDegree = (g.putEdge i target).edges.map List.length := by
  apply List.ext_getElem?
  intro k
  simp only [putEdge, h, List.getElem?_modify, List.getElem?_map]
  by_cases hk : i = k <;> cases g.edges[k]? <;> simp [hk]

theorem Tidy.putEdge (h : g.Tidy) (hi : g.edges[i]? = some ts) (hnew : target ∉ ts) : (g.putEdge i target).Tidy :=
  { h with
    edges_length := (List.length_modify _ _ _).trans h.edges_length
    targets_nodup := targets_nodup_putEdge hi hnew h.targets_nodup
    outDegree_eq := outDegree_putEdge h.outDegree_eq }

theorem sum_modify_succ {xs : List Nat} {i : Nat} (h : i < xs.length) :
    (xs.modify i (· + 1)).sum = xs.sum + 1 := by
  obtain ⟨front, back, hxs, hmod⟩ := modify_split (List.getElem?_eq_getElem h) (· + 1)
  rw [hmod]
  conv_rhs => rw [hxs]
  simp only [List.sum_append, List.sum_cons]
  omega

/-- One more in the entry of an id is one more for that id and for no other. -/
theorem itemAt?_modify_succ {xs : List Nat} {j : Nat} (h : j < xs.length) (id : Int) :
    (itemAt? (xs.modify j (· + 1)) id).getD 0 = (itemAt? xs id).getD 0 + if (j : Int) = id then 1 else 0 := by
  by_cases hid : 0 ≤ id
  · obtain ⟨k, rfl⟩ := Int.eq_ofNat_of_zero_le hid
    simp only [itemAt?_natCast, List.getElem?_modify, Int.natCast_inj]
    by_cases hk : j = k
    · subst hk
      simp [List.getElem?_eq_getElem h]
    · simp [hk]
  · have hne : ¬ (j : Int) = id := by omega
    simp [itemAt?, hid, hne]

end PutEdge

end CallGraph

/-! ## Runs -/

/-- A call that adds to a graph. -/
inductive GraphCall where
  | node (n : GraphNode)
  | edge (source target : Int)

/-- A call that failed to add an edge. -/
structure FailedEdge where
  source : Int
  target : Int
  /-- The source was a node when the call was made. -/
  sourceKnown : Bool

/-- A graph with the calls on it that failed. -/
structure GraphRun where
  graph : CallGraph
  failed : List FailedEdge := []

namespace GraphRun

open CallGraph (itemAt?)

/-- One call: what it changed before it failed stays. -/
def call (r : GraphRun) : GraphCall → GraphRun
  | .node n => { r with graph := (r.graph.addNode n).1 }
  | .edge source target =>
    match r.graph.addEdge source target with
    | (g, .ok _) => { r with graph := g }
    | (g, .error _) =>
      { graph := g, failed := r.failed ++ [{ source, target, sourceKnown := decide (source ∈ r.graph.ids) }] }

/-- A run of calls on a new graph. -/
def ofCalls (unit : String) (calls : List GraphCall) : GraphRun :=
  calls.foldl call { graph := { unit } }

/-- The number of calls that failed to add an edge to a target although their source was a node. -/
def missed (r : GraphRun) (target : Int) : Nat :=
  r.failed.countP fun f => f.sourceKnown && f.target = target

/-- The accounts of a run: every edge is counted at its source, and at its target or as missed. -/
structure Balanced (r : GraphRun) : Prop where
  tidy : r.graph.Tidy
  /-- This holds of every id, so that an id that becomes a node brings its account along. -/
  inDegree_add : ∀ id, (itemAt? r.graph.inDegree id).getD 0 + r.missed id = r.graph.edges.countP (id ∈ ·)
  sum_add : r.graph.inDegree.sum + r.failed.countP (·.sourceKnown) = r.graph.outDegree.sum

theorem balanced_new (unit : String) : Balanced { graph := { unit } } where
  tidy :=
    { edges_length := rfl
      inDegree_length := rfl
      keys_nodup := List.nodup_nil
      targets_nodup := by simp
      outDegree_eq := rfl }
  inDegree_add := by
    intro id
    simp [itemAt?, missed]
  sum_add := rfl

variable {r : GraphRun}

theorem Balanced.node (h : r.Balanced) (n : GraphNode) : (r.call (.node n)).Balanced := by
  refine ⟨h.tidy.addNode n, ?_, ?_⟩ <;> simp only [GraphRun.call] <;>
    rcases r.graph.addNode_cases n with ⟨i, -, hg⟩ | ⟨-, hg⟩ <;> rw [hg]
  · exact h.inDegree_add
  · intro id
    have := h.inDegree_add id
    simpa [CallGraph.itemAt?_append_default, missed] using this
  · exact h.sum_add
  · simpa using h.sum_add

theorem Balanced.mem_ids_iff (h : r.Balanced) {id : Int} : id ∈ r.graph.ids ↔ (itemAt? r.graph.edges id).isSome := by
  rw [CallGraph.mem_ids, CallGraph.isSome_itemAt?, h.tidy.edges_length]

theorem Balanced.edge (h : r.Balanced) (source target : Int) : (r.call (.edge source target)).Balanced := by
  rcases r.graph.addEdge_cases source target with ⟨hs, hadd⟩ | ⟨i, ts, rfl, hi, hcases⟩
  · have hunknown : source ∉ r.graph.ids := by simp [h.mem_ids_iff, hs]
    simp only [GraphRun.call, hadd, hunknown, decide_false]
    refine ⟨h.tidy, fun id => ?_, ?_⟩
    · simpa [missed] using h.inDegree_add id
    · simpa using h.sum_add
  have hknown : (i : Int) ∈ r.graph.ids := by simp [h.mem_ids_iff, hi]
  have hlen : i < r.graph.outDegree.length := by
    rw [h.tidy.outDegree_eq, List.length_map]
    exact (List.getElem?_eq_some_iff.mp hi).1
  have hsum := h.sum_add
  rcases hcases with ⟨-, hadd⟩ | ⟨hnew, -, hadd⟩ | ⟨hnew, j, rfl, hj, hadd⟩
  · simp only [GraphRun.call, hadd]
    exact h
  · simp only [GraphRun.call, hadd, hknown, decide_true]
    refine ⟨h.tidy.putEdge hi hnew, fun id => ?_, ?_⟩
    · rw [CallGraph.countP_putEdge hi hnew, ← h.inDegree_add id]
      simp only [missed, List.countP_append, List.countP_singleton, Bool.true_and, decide_eq_true_eq]
      rw [Nat.add_assoc]
      rfl
    · simp only [CallGraph.putEdge, List.countP_append, List.countP_singleton, if_true,
        CallGraph.sum_modify_succ hlen]
      omega
  · simp only [GraphRun.call, hadd]
    refine ⟨{ h.tidy.putEdge hi hnew with
      inDegree_length := (List.length_modify _ _ _).trans h.tidy.inDegree_length }, fun id => ?_, ?_⟩
    · have hcount := CallGraph.countP_putEdge hi hnew id
      have hitem := CallGraph.itemAt?_modify_succ hj id
      have := h.inDegree_add id
      simp only [missed] at this ⊢
      omega
    · simp only [CallGraph.putEdge, CallGraph.sum_modify_succ hlen, CallGraph.sum_modify_succ hj]
      omega

theorem Balanced.call (h : r.Balanced) (c : GraphCall) : (r.call c).Balanced := by
  cases c with
  | node n => exact h.node n
  | edge source target => exact h.edge source target

theorem Balanced.foldl (h : r.Balanced) (calls : List GraphCall) : (calls.foldl GraphRun.call r).Balanced := by
  induction calls generalizing r with
  | nil => exact h
  | cons c calls ih => exact ih (h.call c)

theorem balanced_ofCalls (unit : String) (calls : List GraphCall) : (ofCalls unit calls).Balanced :=
  (balanced_new unit).foldl calls

end GraphRun

/-! ## What the accounts say about a graph -/

namespace CallGraph

/-- The nodes with an edge to an id. -/
def callers (g : CallGraph) (id : Int) : List Int :=
  g.ids.filter fun caller => id ∈ g.targets caller

/-- The accounts of a graph, given how often an edge to each id was missed. -/
structure Accounts (g : CallGraph) (missed : Int → Nat) : Prop where
  /-- Edges and degrees are kept for the ids of the nodes and for no others. -/
  edges_known : ∀ id, (itemAt? g.edges id).isSome ↔ id ∈ g.ids
  inDegree_known : ∀ id, (itemAt? g.inDegree id).isSome ↔ id ∈ g.ids
  outDegree_known : ∀ id, (itemAt? g.outDegree id).isSome ↔ id ∈ g.ids
  /-- The index finds the place of every key, and nothing for what is no key. -/
  index_eq_some_iff : ∀ key i, g.index? key = some i ↔ g.keys[i]? = some key
  /-- The index is a bijection between the different keys and the places. -/
  index_bijective : ∃ e : { key // key ∈ g.keys } ≃ Fin g.size, ∀ key, g.index? key.1 = some (e key).1
  /-- The edges of a node are different, and its degree is their number. -/
  outDegree_eq : ∀ id ∈ g.ids, (g.targets id).Nodup ∧ itemAt? g.outDegree id = some (g.targets id).length
  /-- The nodes with an edge to a node are counted or missed. -/
  inDegree_add : ∀ id ∈ g.ids, ∃ n, itemAt? g.inDegree id = some n ∧ n + missed id = (g.callers id).length

theorem index?_eq_some_iff {g : CallGraph} (h : g.keys.Nodup) (key : NodeKey) (i : Nat) :
    g.index? key = some i ↔ g.keys[i]? = some key := by
  simp only [index?, List.findIdx?_eq_some_iff_getElem, keys, List.getElem?_map, Option.map_eq_some_iff,
    List.getElem?_eq_some_iff, decide_eq_true_eq]
  constructor
  · rintro ⟨hi, hkey, -⟩
    exact ⟨_, ⟨hi, rfl⟩, hkey⟩
  · rintro ⟨n, ⟨hi, rfl⟩, hkey⟩
    refine ⟨hi, hkey, fun j hj hsame => ?_⟩
    have hi' : i < g.keys.length := by rwa [length_keys]
    have hplaces : g.keys[j] = g.keys[i] := by simp [keys, hsame, hkey]
    have := h.getElem_inj_iff.mp hplaces
    omega

/-- The different keys and the places, matched by the index. -/
theorem exists_index_equiv {g : CallGraph} (h : g.keys.Nodup) :
    ∃ e : { key // key ∈ g.keys } ≃ Fin g.size, ∀ key, g.index? key.1 = some (e key).1 := by
  refine ⟨(h.getEquiv g.keys).symm.trans (finCongr g.length_keys), fun key => ?_⟩
  have hkey : g.keys.get ((h.getEquiv g.keys).symm key) = key.1 :=
    congrArg Subtype.val ((h.getEquiv g.keys).apply_symm_apply key)
  rw [index?_eq_some_iff h]
  exact List.getElem?_eq_some_iff.mpr ⟨((h.getEquiv g.keys).symm key).2, hkey⟩

theorem map_itemAt?_ids {α : Type} {g : CallGraph} {xs : List α} (h : xs.length = g.size) (a : α) :
    g.ids.map (fun id => (itemAt? xs id).getD a) = xs := by
  apply List.ext_getElem
  · simp [ids, h]
  · intro i _ hi
    simp [ids, hi]

theorem length_callers {g : CallGraph} (h : g.edges.length = g.size) (id : Int) :
    (g.callers id).length = g.edges.countP (id ∈ ·) := by
  conv_rhs => rw [← map_itemAt?_ids h [], List.countP_map]
  rw [callers, ← List.countP_eq_length_filter]
  rfl

end CallGraph

/-- A function of the unit `u`. -/
def GraphNode.plain (name : String) : GraphNode where
  key := { unit := "u", name }
  kind := .function
  firstLine := 1
  lastLine := 1
  text := ""
  exported := false

namespace GraphRun

open CallGraph (itemAt?)

variable {r : GraphRun}

theorem Balanced.accounts (h : r.Balanced) : r.graph.Accounts r.missed where
  edges_known id := h.mem_ids_iff.symm
  inDegree_known id := by rw [CallGraph.mem_ids, CallGraph.isSome_itemAt?, h.tidy.inDegree_length]
  outDegree_known id := by
    rw [CallGraph.mem_ids, CallGraph.isSome_itemAt?, h.tidy.outDegree_eq, List.length_map, h.tidy.edges_length]
  index_eq_some_iff := CallGraph.index?_eq_some_iff h.tidy.keys_nodup
  index_bijective := CallGraph.exists_index_equiv h.tidy.keys_nodup
  outDegree_eq := by
    intro id hid
    obtain ⟨i, hi, rfl⟩ := CallGraph.mem_ids.mp hid
    rw [← h.tidy.edges_length] at hi
    have htargets : r.graph.targets i = r.graph.edges[i] := by simp [CallGraph.targets, hi]
    rw [htargets]
    exact ⟨h.tidy.targets_nodup _ (List.getElem_mem hi), by simp [h.tidy.outDegree_eq, hi]⟩
  inDegree_add := by
    intro id hid
    obtain ⟨i, hi, rfl⟩ := CallGraph.mem_ids.mp hid
    rw [← h.tidy.inDegree_length] at hi
    have hadd := h.inDegree_add i
    simp only [CallGraph.itemAt?_natCast, List.getElem?_eq_getElem hi, Option.getD_some] at hadd ⊢
    exact ⟨_, rfl, hadd.trans (CallGraph.length_callers h.tidy.edges_length _).symm⟩

theorem missed_of_none_failed (hnone : r.failed = []) (id : Int) : r.missed id = 0 := by
  simp [missed, hnone]

/-- If nothing failed, no edge leads to an id that is no node. -/
theorem Balanced.mem_ids_of_mem_targets (h : r.Balanced) (hnone : r.failed = []) {source target : Int}
    (hmem : target ∈ r.graph.targets source) : target ∈ r.graph.ids := by
  have hin := h.inDegree_add target
  rw [missed_of_none_failed hnone, Nat.add_zero] at hin
  obtain ⟨i, -, ts, hts, htarget⟩ := CallGraph.mem_targets.mp hmem
  have hpos : 0 < r.graph.edges.countP (target ∈ ·) :=
    List.countP_pos_iff.mpr ⟨ts, List.mem_of_getElem? hts, by simpa using htarget⟩
  rw [← hin] at hpos
  rw [← h.accounts.inDegree_known]
  cases hi : itemAt? r.graph.inDegree target with
  | none => simp [hi] at hpos
  | some n => rfl

/-- The accounts after any calls on a new graph. If no call failed, all edges lead to nodes, every degree is exact,
and the degrees on both sides have the same sum. -/
theorem accounts_ofCalls (unit : String) (calls : List GraphCall) :
    (ofCalls unit calls).graph.Accounts (ofCalls unit calls).missed ∧
    ((ofCalls unit calls).failed = [] →
      (∀ source ∈ (ofCalls unit calls).graph.ids, ∀ target ∈ (ofCalls unit calls).graph.targets source,
        target ∈ (ofCalls unit calls).graph.ids) ∧
      (∀ id ∈ (ofCalls unit calls).graph.ids, itemAt? (ofCalls unit calls).graph.inDegree id =
        some ((ofCalls unit calls).graph.callers id).length) ∧
      (ofCalls unit calls).graph.inDegree.sum = (ofCalls unit calls).graph.outDegree.sum) := by
  have h := balanced_ofCalls unit calls
  refine ⟨h.accounts, fun hnone => ⟨fun _ _ _ => h.mem_ids_of_mem_targets hnone, fun id hid => ?_, ?_⟩⟩
  · obtain ⟨n, hn, hadd⟩ := h.accounts.inDegree_add id hid
    rw [missed_of_none_failed hnone, Nat.add_zero] at hadd
    rw [hn, hadd]
  · have := h.sum_add
    rwa [hnone, List.countP_nil, Nat.add_zero] at this

/-- An edge to an id that becomes a node later stays uncounted there, also when it is added again. -/
example :
    let r := ofCalls "u" [.node (.plain "a"), .edge 0 1, .node (.plain "b"), .edge 0 1]
    r.graph.outDegree = [1, 0] ∧ r.graph.inDegree = [0, 0] ∧ r.graph.callers 1 = [0] ∧ r.missed 1 = 1 := by
  decide

end GraphRun

end RiskGauge
