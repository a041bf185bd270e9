import Mathlib.Data.List.Induction
import RiskGauge.Graph.Build
import RiskGauge.Proofs.Graph.Accounting
import RiskGauge.Proofs.SyntaxTree
import RiskGauge.Script.Parse

/-!
# What a built graph says about a source

The call graph of a source is made from the list of its declarations in three passes. Here it is described without
them:

* `Declaration.declaredNames`, `Declaration.merged?`: the nodes that a list of declarations stands for;
* `Declaration.Calls`: a name is called somewhere within the body of a declaration;
* `CallGraph.Describes`: nodes, edges and entry points are those of the declarations;
* `CallGraph.Settled`: every edge is counted at both ends, because no pass ever fails to add an edge.
-/

namespace RiskGauge

/-! ## What declarations stand for -/

namespace Declaration

/-- The names that are declared, each once, in the order of their first declarations. -/
def declaredNames (ds : List Declaration) : List String :=
  (ds.map (·.name)).eraseDups

/-- The node for a name: that of its first declaration, but exported if any of its declarations is. -/
def merged? (unit : String) (ds : List Declaration) (name : String) : Option GraphNode :=
  (ds.find? (·.name = name)).map fun first =>
    { first.toNode unit with exported := ds.any fun d => d.name = name && d.exported }

/-- The name is called somewhere within the body of the declaration. -/
def Calls (source : List Char) (d : Declaration) (name : String) : Prop :=
  name ≠ "" ∧ ∃ call : SyntaxTree, call.Within d.body ∧ call.kind = .call ∧ calleeName? source call = some name

variable {source : List Char} {unit : String} {ds : List Declaration} {name : String}

theorem mem_declaredNames : name ∈ declaredNames ds ↔ ∃ d ∈ ds, d.name = name := by
  simp [declaredNames, List.mem_eraseDups]

theorem exists_find?_of_mem (h : name ∈ declaredNames ds) :
    ∃ first, ds.find? (·.name = name) = some first ∧ first ∈ ds ∧ first.name = name := by
  obtain ⟨d, hd, hname⟩ := mem_declaredNames.mp h
  have hfind : (ds.find? (·.name = name)).isSome := List.find?_isSome.mpr ⟨d, hd, by simpa using hname⟩
  obtain ⟨first, hfirst⟩ := Option.isSome_iff_exists.mp hfind
  exact ⟨first, hfirst, List.mem_of_find?_eq_some hfirst, by simpa using List.find?_some hfirst⟩

theorem mem_calledNames {d : Declaration} : name ∈ d.calledNames source ↔ d.Calls source name := by
  simp only [calledNames, Calls, List.mem_filterMap, ← SyntaxTree.exists_mem_walk]
  constructor
  · rintro ⟨v, hv, h⟩
    split at h
    · rename_i hkind
      obtain ⟨hname, hne⟩ := Option.filter_eq_some_iff.mp h
      exact ⟨by simpa using hne, v.tree, ⟨v, hv, rfl⟩, hkind, hname⟩
    · cases h
  · rintro ⟨hne, _, ⟨v, hv, rfl⟩, hkind, hname⟩
    exact ⟨v, hv, by simp [hkind, hname, hne]⟩

/-- What is called within a nested declaration is called within the outer one. -/
theorem Calls.of_nested {inner outer : Declaration} (hin : inner.body.Within outer.body)
    (h : inner.Calls source name) : outer.Calls source name := by
  obtain ⟨hne, call, hcall, hkind, hname⟩ := h
  exact ⟨hne, call, hcall.trans hin, hkind, hname⟩

theorem declaredNames_append (ds : List Declaration) (d : Declaration) :
    declaredNames (ds ++ [d]) = if d.name ∈ declaredNames ds then declaredNames ds else declaredNames ds ++ [d.name] := by
  simp only [declaredNames, List.map_append, List.map_cons, List.map_nil, List.eraseDups_append, List.removeAll,
    List.mem_eraseDups]
  split <;> simp_all [List.eraseDups_cons]

/-- One more declaration of a name can export its node. -/
theorem merged?_append_self {d : Declaration} (h : d.name ∈ declaredNames ds) :
    merged? unit (ds ++ [d]) d.name =
      (merged? unit ds d.name).map fun old => { old with exported := old.exported || d.exported } := by
  obtain ⟨first, hfirst, -, -⟩ := exists_find?_of_mem h
  simp [merged?, List.find?_append, hfirst]

theorem merged?_append_of_ne {d : Declaration} (h : d.name ≠ name) :
    merged? unit (ds ++ [d]) name = merged? unit ds name := by
  simp [merged?, List.find?_append, h]

theorem merged?_append_new {d : Declaration} (h : d.name ∉ declaredNames ds) :
    merged? unit (ds ++ [d]) d.name = some (d.toNode unit) := by
  have hnone : ∀ e ∈ ds, e.name ≠ d.name := fun e he hname => h (mem_declaredNames.mpr ⟨e, he, hname⟩)
  have hfind : ds.find? (·.name = d.name) = none := List.find?_eq_none.mpr (by simpa using hnone)
  have hany : (ds.any fun e => e.name = d.name && e.exported) = false := by
    simp only [List.any_eq_false]
    intro e he
    simp [hnone e he]
  simp [merged?, List.find?_append, hfind, hany, toNode]

theorem merged?_key (h : name ∈ declaredNames ds) : (merged? unit ds name).map (·.key) = some { unit, name } := by
  obtain ⟨first, hfirst, -, hname⟩ := exists_find?_of_mem h
  simp [merged?, hfirst, toNode, hname]

end Declaration

namespace CallGraph

open GraphRun (Balanced)

/-- Entry points and changed nodes are in no account. -/
theorem balanced_mark {r : GraphRun} (h : r.Balanced) (entrypoints changed : List Int) :
    Balanced { r with graph := { r.graph with entrypoints, changed } } :=
  ⟨{ h.tidy with }, h.inDegree_add, h.sum_add⟩

/-- A graph whose accounts balance with nothing missed. -/
def Settled (g : CallGraph) : Prop :=
  Balanced { graph := g }

/-! ## Nodes -/

section Nodes

variable {g : CallGraph} {n : GraphNode} {key : NodeKey} {i : Nat}

theorem index?_eq (g : CallGraph) (key : NodeKey) : g.index? key = g.keys.findIdx? (· = key) := by
  simp [index?, keys, List.findIdx?_map, Function.comp_def]

theorem addNode_unit (g : CallGraph) (n : GraphNode) : (g.addNode n).1.unit = g.unit := by
  rcases g.addNode_cases n with ⟨i, -, hg⟩ | ⟨-, hg⟩ <;> rw [hg]

/-- A key that is found stays where it is. -/
theorem index?_addNode_of_some (h : g.index? key = some i) (n : GraphNode) :
    (g.addNode n).1.index? key = some i := by
  rcases g.addNode_cases n with ⟨_, -, hg⟩ | ⟨-, hg⟩ <;> rw [hg]
  · rw [index?_eq] at h ⊢
    simp only [keys, keys_modify]
    exact h
  · have hfound : g.nodes.findIdx? (·.key = key) = some i := h
    simp [index?, List.findIdx?_append, hfound]

/-- The id that adding a node gives is that of its key. -/
theorem index?_addNode_self (g : CallGraph) (n : GraphNode) :
    (g.addNode n).1.index? n.key = some (g.addNode n).2 := by
  cases h : g.index? n.key with
  | some i =>
    rw [index?_addNode_of_some h]
    simp [addNode, h]
  | none =>
    have hnone : g.nodes.findIdx? (·.key = n.key) = none := h
    simp [addNode, index?, hnone, size]

theorem Settled.addNode (h : g.Settled) (n : GraphNode) : (g.addNode n).1.Settled :=
  Balanced.node h n

end Nodes

section Declarations

variable {g : CallGraph} {ds : List Declaration} {name : String} {i : Nat}

theorem addDeclarations_cons (g : CallGraph) (d : Declaration) (ds : List Declaration) :
    addDeclarations g (d :: ds) =
      ((addDeclarations (g.addNode (d.toNode g.unit)).1 ds).1,
        (g.addNode (d.toNode g.unit)).2 :: (addDeclarations (g.addNode (d.toNode g.unit)).1 ds).2) := rfl

theorem addDeclarations_unit (g : CallGraph) (ds : List Declaration) : (addDeclarations g ds).1.unit = g.unit := by
  induction ds generalizing g with
  | nil => rfl
  | cons d ds ih => rw [addDeclarations_cons, ih, addNode_unit]

theorem addDeclarations_append (g : CallGraph) (ds : List Declaration) (d : Declaration) :
    (addDeclarations g (ds ++ [d])).1 = ((addDeclarations g ds).1.addNode (d.toNode g.unit)).1 := by
  induction ds generalizing g with
  | nil => rfl
  | cons e ds ih => rw [List.cons_append, addDeclarations_cons, addDeclarations_cons, ih, addNode_unit]

theorem Settled.addDeclarations (h : g.Settled) (ds : List Declaration) : (addDeclarations g ds).1.Settled := by
  induction ds generalizing g with
  | nil => exact h
  | cons d ds ih => exact ih (h.addNode _)

/-- A name that has an id keeps it. -/
theorem idOf?_addDeclarations (h : g.idOf? name = some i) (ds : List Declaration) :
    (addDeclarations g ds).1.idOf? name = some i := by
  induction ds generalizing g with
  | nil => exact h
  | cons d ds ih =>
    rw [addDeclarations_cons]
    apply ih
    rw [idOf?, addNode_unit]
    exact index?_addNode_of_some h _

/-- The ids of the declarations are those of their names. -/
theorem map_some_addDeclarations (g : CallGraph) (ds : List Declaration) :
    (addDeclarations g ds).2.map some = ds.map fun d => (addDeclarations g ds).1.idOf? d.name := by
  induction ds generalizing g with
  | nil => rfl
  | cons d ds ih =>
    have hself : (g.addNode (d.toNode g.unit)).1.idOf? d.name = some (g.addNode (d.toNode g.unit)).2 := by
      rw [idOf?, addNode_unit]
      exact index?_addNode_self g (d.toNode g.unit)
    rw [addDeclarations_cons, List.map_cons, List.map_cons, ih, idOf?_addDeclarations hself]

theorem settled_new (unit : String) : Settled { unit } :=
  GraphRun.balanced_new unit

open Declaration (declaredNames merged?)

/-- Nodes as those of declarations have the declared names as keys. -/
theorem keys_of_nodes {unit : String} (h : g.nodes.map some = (declaredNames ds).map (merged? unit ds)) :
    g.keys = (declaredNames ds).map fun name => { unit, name } := by
  apply List.map_injective_iff.mpr (Option.some_injective _)
  calc g.keys.map some
      = (g.nodes.map some).map (Option.map (·.key)) := by simp [keys]
    _ = (declaredNames ds).map fun name => (merged? unit ds name).map (·.key) := by rw [h, List.map_map]; rfl
    _ = ((declaredNames ds).map fun name => { unit, name }).map some := by
      rw [List.map_map]
      exact List.map_congr_left fun name hname => Declaration.merged?_key hname

/-- The nodes are those that the declarations stand for. -/
theorem nodes_addDeclarations (unit : String) (ds : List Declaration) :
    (addDeclarations { unit } ds).1.nodes.map some = (declaredNames ds).map (merged? unit ds) := by
  induction ds using List.reverseRecOn with
  | nil => rfl
  | append_singleton ds d ih =>
    have hkeys := keys_of_nodes ih
    have hnodup := ((settled_new unit).addDeclarations ds).tidy.keys_nodup
    have hunique : (declaredNames ds).Nodup := List.Nodup.of_map _ (hkeys ▸ hnodup)
    have hmem : d.name ∈ declaredNames ds ↔ (d.toNode unit).key ∈ (addDeclarations { unit } ds).1.keys := by
      simp [hkeys, Declaration.toNode]
    rw [addDeclarations_append]
    rcases (addDeclarations { unit } ds).1.addNode_cases (d.toNode unit) with ⟨i, hi, hg⟩ | ⟨hnew, hg⟩ <;> rw [hg]
    · have hplace : (declaredNames ds)[i]? = some d.name := by
        have := (index?_eq_some_iff hnodup _ _).mp hi
        simpa [hkeys, Declaration.toNode] using this
      rw [Declaration.declaredNames_append, if_pos (List.mem_of_getElem? hplace)]
      apply List.ext_getElem?
      intro k
      have hk := congrArg (·[k]?) ih
      simp only [List.getElem?_map, List.getElem?_modify] at hk ⊢
      by_cases hik : i = k
      · subst hik
        rw [hplace, Option.map_some] at hk ⊢
        obtain ⟨n, hn, hmerged⟩ := Option.map_eq_some_iff.mp hk
        rw [hn, Declaration.merged?_append_self (List.mem_of_getElem? hplace), ← hmerged]
        simp [Declaration.toNode]
      · simp only [hik, if_false, Option.map_eq_map, Option.map_id', hk]
        cases hname : (declaredNames ds)[k]? with
        | none => rfl
        | some name =>
          have hne : d.name ≠ name := by
            rintro rfl
            have hlt := (List.getElem?_eq_some_iff.mp hplace).1
            exact hik ((List.getElem?_inj hlt hunique).mp (hplace.trans hname.symm))
          rw [Option.map_some, Option.map_some, Declaration.merged?_append_of_ne hne]
    · rw [Declaration.declaredNames_append, if_neg (hmem.not.mpr hnew)]
      simp only [List.map_append, List.map_cons, List.map_nil, ih]
      rw [Declaration.merged?_append_new (hmem.not.mpr hnew)]
      congr 1
      refine List.map_congr_left fun name hname => (Declaration.merged?_append_of_ne ?_).symm
      rintro rfl
      exact hmem.not.mpr hnew hname

end Declarations

/-! ## Edges -/

section Edges

variable {g : CallGraph} {i j : Nat} {ts : List Int} {target : Int}

theorem mem_targets_putEdge (h : g.edges[i]? = some ts) (source id : Int) :
    id ∈ (g.putEdge i target).targets source ↔ id ∈ g.targets source ∨ (source = i ∧ id = target) := by
  by_cases hsource : 0 ≤ source
  · obtain ⟨k, rfl⟩ := Int.eq_ofNat_of_zero_le hsource
    simp only [targets, putEdge, itemAt?_natCast, List.getElem?_modify, Int.natCast_inj]
    by_cases hk : i = k
    · subst hk
      simp [h]
    · have hne : ¬ k = i := fun e => hk e.symm
      simp [hk, hne]
  · have hne : ¬ source = i := by omega
    simp [targets, itemAt?, hsource, hne]

/-- Adding an edge from a node adds it, and no other. -/
theorem mem_targets_addEdge (hi : i < g.edges.length) (target source id : Int) :
    id ∈ (g.addEdge i target).1.targets source ↔ id ∈ g.targets source ∨ (source = i ∧ id = target) := by
  rcases g.addEdge_cases i target with ⟨hnone, -⟩ | ⟨k, ts, hik, hts, hcases⟩
  · simp [hi] at hnone
  obtain rfl : i = k := by exact_mod_cast hik
  rcases hcases with ⟨hmem, hadd⟩ | ⟨-, -, hadd⟩ | ⟨-, j, rfl, -, hadd⟩ <;> rw [hadd]
  · constructor
    · exact .inl
    · rintro (h | ⟨rfl, rfl⟩)
      · exact h
      · simpa [targets, hts] using hmem
  · exact mem_targets_putEdge hts source id
  · exact mem_targets_putEdge hts source id

/-- Two graphs that differ in their edges and degrees alone. -/
structure SameNodes (g h : CallGraph) : Prop where
  unit : h.unit = g.unit
  nodes : h.nodes = g.nodes
  entrypoints : h.entrypoints = g.entrypoints
  edges_length : h.edges.length = g.edges.length

theorem SameNodes.refl (g : CallGraph) : g.SameNodes g :=
  ⟨rfl, rfl, rfl, rfl⟩

theorem SameNodes.trans {h k : CallGraph} (hg : g.SameNodes h) (hk : h.SameNodes k) : g.SameNodes k :=
  ⟨hk.unit.trans hg.unit, hk.nodes.trans hg.nodes, hk.entrypoints.trans hg.entrypoints,
    hk.edges_length.trans hg.edges_length⟩

theorem SameNodes.idOf? {h : CallGraph} (hg : g.SameNodes h) (name : String) : h.idOf? name = g.idOf? name := by
  simp only [CallGraph.idOf?, index?, hg.unit, hg.nodes]

theorem SameNodes.size {h : CallGraph} (hg : g.SameNodes h) : h.size = g.size := by
  rw [CallGraph.size, CallGraph.size, hg.nodes]

theorem sameNodes_addEdge (g : CallGraph) (source target : Int) : g.SameNodes (g.addEdge source target).1 := by
  rcases g.addEdge_cases source target with ⟨-, hadd⟩ | ⟨i, ts, -, -, hcases⟩
  · rw [hadd]
    exact .refl g
  rcases hcases with ⟨-, hadd⟩ | ⟨-, -, hadd⟩ | ⟨-, j, -, -, hadd⟩ <;> rw [hadd]
  · exact .refl g
  · exact ⟨rfl, rfl, rfl, List.length_modify ..⟩
  · exact ⟨rfl, rfl, rfl, List.length_modify ..⟩

theorem Settled.edges_length (h : g.Settled) : g.edges.length = g.size :=
  h.tidy.edges_length

/-- An edge between nodes is counted at both ends. -/
theorem Settled.addEdge (h : g.Settled) (hi : i < g.size) (hj : j < g.size) :
    (g.addEdge i j).1.Settled := by
  have hcall := Balanced.edge h i j
  rcases g.addEdge_cases i j with ⟨hnone, -⟩ | ⟨k, ts, -, -, hcases⟩
  · simp [h.edges_length, hi] at hnone
  rcases hcases with ⟨-, hadd⟩ | ⟨-, hnone, -⟩ | ⟨-, _, -, -, hadd⟩
  · simpa [GraphRun.call, hadd, Settled] using hcall
  · have hin : g.inDegree.length = g.size := h.tidy.inDegree_length
    simp [hin, hj] at hnone
  · simpa [GraphRun.call, hadd, Settled] using hcall

end Edges

/-! ## Calls -/

section Calls

variable {g : CallGraph} {i : Nat} {name : String} {source : List Char}

theorem lt_size_of_idOf? (h : g.idOf? name = some i) : i < g.size :=
  (List.findIdx?_eq_some_iff_findIdx_eq.mp h).1

theorem sameNodes_addCall (g : CallGraph) (i : Nat) (name : String) : g.SameNodes (addCall i g name) := by
  unfold addCall
  split
  · exact sameNodes_addEdge g _ _
  · exact .refl g

/-- A call adds the edge to the node of its name, if there is one. -/
theorem mem_targets_addCall (hi : i < g.edges.length) (name : String) (caller id : Int) :
    id ∈ (addCall i g name).targets caller ↔
      id ∈ g.targets caller ∨ (caller = i ∧ ∃ j : Nat, g.idOf? name = some j ∧ id = j) := by
  unfold addCall
  split
  · rename_i j hj
    rw [mem_targets_addEdge hi]
    simp [hj]
  · rename_i hnone
    simp [hnone]

theorem Settled.addCall (h : g.Settled) (hi : i < g.size) (name : String) : (addCall i g name).Settled := by
  unfold CallGraph.addCall
  split
  · rename_i j hj
    exact h.addEdge hi (lt_size_of_idOf? hj)
  · exact h

/-- The calls inside of declarations: the id of the caller with the name that it calls. -/
def callPairs (source : List Char) (ds : List (Declaration × Nat)) : List (Nat × String) :=
  ds.flatMap fun (d, i) => (d.calledNames source).map fun name => (i, name)

theorem addCalls_eq (source : List Char) (g : CallGraph) (ds : List (Declaration × Nat)) :
    addCalls source g ds = (callPairs source ds).foldl (fun g p => addCall p.1 g p.2) g := by
  simp [addCalls, callPairs, List.foldl_flatMap, List.foldl_map]

theorem mem_callPairs {ds : List (Declaration × Nat)} :
    (i, name) ∈ callPairs source ds ↔ ∃ d, (d, i) ∈ ds ∧ d.Calls source name := by
  simp [callPairs, Declaration.mem_calledNames]

theorem sameNodes_foldl_addCall (g : CallGraph) (ps : List (Nat × String)) :
    g.SameNodes (ps.foldl (fun g p => addCall p.1 g p.2) g) := by
  induction ps generalizing g with
  | nil => exact .refl g
  | cons p ps ih => exact (sameNodes_addCall g p.1 p.2).trans (ih _)

theorem mem_targets_foldl_addCall (ps : List (Nat × String)) (hps : ∀ p ∈ ps, p.1 < g.edges.length)
    (caller id : Int) :
    id ∈ (ps.foldl (fun g p => addCall p.1 g p.2) g).targets caller ↔
      id ∈ g.targets caller ∨ ∃ p ∈ ps, caller = p.1 ∧ ∃ j : Nat, g.idOf? p.2 = some j ∧ id = j := by
  induction ps generalizing g with
  | nil => simp
  | cons p ps ih =>
    -- the nodes stay, so the names of the other calls have the ids that they had
    have hsame := sameNodes_addCall g p.1 p.2
    have hps' : ∀ q ∈ ps, q.1 < (addCall p.1 g p.2).edges.length := by
      intro q hq
      rw [hsame.edges_length]
      exact hps q (List.mem_cons_of_mem p hq)
    rw [List.foldl_cons, ih hps', mem_targets_addCall (hps p List.mem_cons_self)]
    simp only [hsame.idOf?, List.mem_cons, exists_eq_or_imp, or_assoc]

theorem Settled.foldl_addCall (h : g.Settled) (ps : List (Nat × String)) (hps : ∀ p ∈ ps, p.1 < g.size) :
    (ps.foldl (fun g p => CallGraph.addCall p.1 g p.2) g).Settled := by
  induction ps generalizing g with
  | nil => exact h
  | cons p ps ih =>
    rw [List.foldl_cons]
    refine ih (h.addCall (hps p List.mem_cons_self) p.2) fun q hq => ?_
    rw [(sameNodes_addCall g p.1 p.2).size]
    exact hps q (List.mem_cons_of_mem p hq)

end Calls

/-! ## The whole graph -/

open Declaration (declaredNames merged?)

/-- The nodes, edges and entry points of a graph are those of declarations in a source. -/
structure Describes (source : List Char) (unit : String) (ds : List Declaration) (g : CallGraph) : Prop where
  /-- There is a node for each name, in the order of the first declarations. -/
  nodes : g.nodes.map some = (declaredNames ds).map (merged? unit ds)
  /-- The edges of a node lead to the nodes whose names are called by its declarations. -/
  targets : ∀ (i : Nat) (u : String), (declaredNames ds)[i]? = some u → ∀ id : Int,
    id ∈ g.targets i ↔ ∃ (j : Nat) (v : String), id = j ∧ (declaredNames ds)[j]? = some v ∧
      ∃ d ∈ ds, d.name = u ∧ d.Calls source v
  /-- Only nodes have edges. -/
  targets_unknown : ∀ id ∉ g.ids, g.targets id = []
  entrypoints : ∀ id : Int, id ∈ g.entrypoints ↔ ∃ (i : Nat) (n : GraphNode), id = i ∧ g.nodes[i]? = some n ∧
    Entrypoint.isProbable n.key.name n.exported source

/-- Declarations with the ids of their names. -/
def numbered (unit : String) (ds : List Declaration) : List (Declaration × Nat) :=
  ds.zip (addDeclarations { unit } ds).2

/-- The graph of declarations in a source, with no node marked as changed. -/
def ofDeclarations (source : List Char) (unit : String) (ds : List Declaration) : CallGraph :=
  let g := (addDeclarations { unit } ds).1
  addCalls source { g with entrypoints := g.probableEntrypoints source } (numbered unit ds)

section Whole

variable {unit : String} {ds : List Declaration} {source : List Char}

theorem targets_addNode (g : CallGraph) (n : GraphNode) (id : Int) : (g.addNode n).1.targets id = g.targets id := by
  rcases g.addNode_cases n with ⟨i, -, hg⟩ | ⟨-, hg⟩ <;> rw [hg]
  · rfl
  · exact itemAt?_append_default g.edges [] id

theorem targets_addDeclarations (g : CallGraph) (ds : List Declaration) (id : Int) :
    (addDeclarations g ds).1.targets id = g.targets id := by
  induction ds generalizing g with
  | nil => rfl
  | cons d ds ih => rw [addDeclarations_cons, ih, targets_addNode]

/-- The id of a name is its place among the declared names. -/
theorem idOf?_addDeclarations_eq_some {name : String} {i : Nat} :
    (addDeclarations { unit } ds).1.idOf? name = some i ↔ (declaredNames ds)[i]? = some name := by
  rw [idOf?, index?_eq_some_iff ((settled_new unit).addDeclarations ds).tidy.keys_nodup,
    keys_of_nodes (nodes_addDeclarations unit ds), addDeclarations_unit]
  simp

theorem size_addDeclarations : (addDeclarations { unit } ds).1.size = (declaredNames ds).length := by
  rw [← length_keys, keys_of_nodes (nodes_addDeclarations unit ds), List.length_map]

theorem mem_zip_of_map_some {α β : Type} {f : α → Option β} {xs : List α} {ys : List β}
    (h : ys.map some = xs.map f) {x : α} {y : β} : (x, y) ∈ xs.zip ys ↔ x ∈ xs ∧ f x = some y := by
  induction xs generalizing ys with
  | nil => simp
  | cons a xs ih =>
    cases ys with
    | nil => simp at h
    | cons b ys =>
      simp only [List.map_cons, List.cons.injEq] at h
      simp only [List.zip_cons_cons, List.mem_cons, Prod.mk.injEq, ih h.2]
      constructor
      · rintro (⟨rfl, rfl⟩ | ⟨hx, hy⟩)
        · exact ⟨.inl rfl, h.1.symm⟩
        · exact ⟨.inr hx, hy⟩
      · rintro ⟨rfl | hx, hy⟩
        · rw [← h.1] at hy
          exact .inl ⟨rfl, (Option.some.inj hy).symm⟩
        · exact .inr ⟨hx, hy⟩

theorem mem_numbered {d : Declaration} {i : Nat} :
    (d, i) ∈ numbered unit ds ↔ d ∈ ds ∧ (declaredNames ds)[i]? = some d.name := by
  rw [numbered, mem_zip_of_map_some (map_some_addDeclarations { unit } ds), idOf?_addDeclarations_eq_some]

theorem lt_size_of_mem_callPairs {p : Nat × String} (hp : p ∈ callPairs source (numbered unit ds)) :
    p.1 < (addDeclarations { unit } ds).1.size := by
  obtain ⟨d, hd, -⟩ := mem_callPairs.mp hp
  rw [size_addDeclarations]
  exact (List.getElem?_eq_some_iff.mp (mem_numbered.mp hd).2).1

theorem sameNodes_ofDeclarations (source : List Char) (unit : String) (ds : List Declaration) :
    SameNodes { (addDeclarations { unit } ds).1 with
      entrypoints := (addDeclarations { unit } ds).1.probableEntrypoints source } (ofDeclarations source unit ds) := by
  rw [ofDeclarations, addCalls_eq]
  exact sameNodes_foldl_addCall _ _

/-- No edge of a graph of declarations is missed. -/
theorem settled_ofDeclarations (source : List Char) (unit : String) (ds : List Declaration) :
    (ofDeclarations source unit ds).Settled := by
  have h := (settled_new unit).addDeclarations ds
  rw [ofDeclarations, addCalls_eq]
  exact Settled.foldl_addCall (balanced_mark h _ _) _ fun p hp => lt_size_of_mem_callPairs hp

theorem mem_probableEntrypoints {g : CallGraph} {id : Int} :
    id ∈ g.probableEntrypoints source ↔ ∃ (i : Nat) (n : GraphNode), id = i ∧ g.nodes[i]? = some n ∧
      Entrypoint.isProbable n.key.name n.exported source := by
  simp only [probableEntrypoints, List.mem_filter, Option.any_eq_true]
  constructor
  · rintro ⟨-, n, hn, hprobable⟩
    obtain ⟨i, rfl, hi⟩ := itemAt?_eq_some.mp hn
    exact ⟨i, n, rfl, hi, hprobable⟩
  · rintro ⟨i, n, rfl, hi, hprobable⟩
    exact ⟨mem_ids.mpr ⟨i, (List.getElem?_eq_some_iff.mp hi).1, rfl⟩, n, by simpa using hi, hprobable⟩

theorem describes_ofDeclarations (source : List Char) (unit : String) (ds : List Declaration) :
    Describes source unit ds (ofDeclarations source unit ds) where
  nodes := by
    rw [(sameNodes_ofDeclarations source unit ds).nodes]
    exact nodes_addDeclarations unit ds
  targets := by
    intro i u hu id
    have hnone : (addDeclarations { unit } ds).1.targets i = [] := by
      rw [targets_addDeclarations]
      rfl
    rw [ofDeclarations, addCalls_eq, mem_targets_foldl_addCall _ fun p hp => ?_]
    · constructor
      · rintro (hid | ⟨⟨k, v⟩, hp, hik, j, hj, rfl⟩)
        · exact absurd (hnone ▸ hid) List.not_mem_nil
        · obtain rfl : i = k := by exact_mod_cast hik
          obtain ⟨d, hd, hcalls⟩ := mem_callPairs.mp hp
          obtain ⟨hmem, hplace⟩ := mem_numbered.mp hd
          have hname : d.name = u := Option.some.inj (hplace.symm.trans hu)
          exact ⟨j, v, rfl, idOf?_addDeclarations_eq_some.mp hj, d, hmem, hname, hcalls⟩
      · rintro ⟨j, v, rfl, hv, d, hd, rfl, hcalls⟩
        exact .inr ⟨(i, v), mem_callPairs.mpr ⟨d, mem_numbered.mpr ⟨hd, hu⟩, hcalls⟩, rfl, j,
          idOf?_addDeclarations_eq_some.mpr hv, rfl⟩
    · exact ((settled_new unit).addDeclarations ds).edges_length ▸ lt_size_of_mem_callPairs hp
  targets_unknown := by
    intro id hid
    have hnone : itemAt? (ofDeclarations source unit ds).edges id = none := by
      simpa using (settled_ofDeclarations source unit ds).mem_ids_iff.not.mp hid
    rw [CallGraph.targets, hnone, Option.getD_none]
  entrypoints := by
    intro id
    have hsame := sameNodes_ofDeclarations source unit ds
    rw [hsame.entrypoints, hsame.nodes]
    exact mem_probableEntrypoints

/-- What a nested declaration calls, the outer one leads to. -/
theorem Describes.mem_targets_of_nested {g : CallGraph} (h : Describes source unit ds g) {inner outer : Declaration}
    (houter : outer ∈ ds) (hin : inner.body.Within outer.body) {i j : Nat} {v : String}
    (hi : (declaredNames ds)[i]? = some outer.name) (hj : (declaredNames ds)[j]? = some v)
    (hcalls : inner.Calls source v) : (j : Int) ∈ g.targets i :=
  (h.targets i outer.name hi j).mpr ⟨j, v, rfl, hj, outer, houter, rfl, hcalls.of_nested hin⟩

end Whole

/-- The declarations of a source; none if it is blank or cannot be read. -/
def declarations (reader : SourceReader) (grammar : Grammar) (source : List Char) : List Declaration :=
  if Text.isBlankText source then []
  else
    match reader grammar source with
    | none => []
    | some tree => Declaration.ofTree source tree

theorem declarations_eq {reader : SourceReader} {grammar : Grammar} {source : List Char} {tree : SyntaxTree}
    (hblank : Text.isBlankText source = false) (hread : reader grammar source = some tree) :
    declarations reader grammar source = Declaration.ofTree source tree := by
  simp [declarations, hblank, hread]

theorem changedIds_of_empty (reader : SourceReader) (grammar : Grammar) (unit : String)
    (before : Option (List Char)) : changedIds reader grammar { unit } [] before = [] := by
  unfold changedIds
  repeat' split
  all_goals rfl

/-- A built graph is that of the declarations of its source, with the changed nodes marked. -/
theorem build_eq (reader : SourceReader) (unit : String) (grammar : Grammar) (source : List Char)
    (before : Option (List Char)) :
    build reader unit grammar source before =
      { ofDeclarations source unit (declarations reader grammar source) with
        changed := changedIds reader grammar (ofDeclarations source unit (declarations reader grammar source))
          (numbered unit (declarations reader grammar source)) before } := by
  have hempty : ({ unit } : CallGraph) = { ofDeclarations source unit [] with
      changed := changedIds reader grammar (ofDeclarations source unit []) (numbered unit []) before } := by
    rw [CallGraph.mk.injEq]
    exact ⟨rfl, rfl, rfl, rfl, rfl, rfl, (changedIds_of_empty reader grammar unit before).symm⟩
  cases hblank : Text.isBlankText source with
  | true =>
    rw [show declarations reader grammar source = [] by simp [declarations, hblank]]
    simpa [build, hblank] using hempty
  | false =>
    cases hread : reader grammar source with
    | none =>
      rw [show declarations reader grammar source = [] by simp [declarations, hblank, hread]]
      simpa [build, hblank, hread] using hempty
    | some tree =>
      rw [declarations_eq hblank hread]
      simp only [build, hblank, hread]
      rfl

theorem settled_build (reader : SourceReader) (unit : String) (grammar : Grammar) (source : List Char)
    (before : Option (List Char)) : (build reader unit grammar source before).Settled := by
  rw [build_eq]
  exact balanced_mark (settled_ofDeclarations source unit _) _ _

theorem describes_build (reader : SourceReader) (unit : String) (grammar : Grammar) (source : List Char)
    (before : Option (List Char)) :
    Describes source unit (declarations reader grammar source) (build reader unit grammar source before) := by
  rw [build_eq]
  exact { describes_ofDeclarations source unit (declarations reader grammar source) with }

variable {reader : SourceReader} {grammar : Grammar} {source : List Char} {tree : SyntaxTree}

/-- The graph of a source that is not blank, and for which any reader gives any tree, is the one that its
declarations describe. The edges of a declaration that is nested in another one are edges of the other one too, and
a node all of whose declarations are nested in those of another node has no edge that the other one lacks. -/
theorem build_describes_declarations (hblank : Text.isBlankText source = false)
    (hread : reader grammar source = some tree) (unit : String) (before : Option (List Char)) :
    Describes source unit (Declaration.ofTree source tree) (build reader unit grammar source before) ∧
    (∀ inner ∈ Declaration.ofTree source tree, ∀ outer ∈ Declaration.ofTree source tree,
      inner.body.Within outer.body → ∀ (i j : Nat) (v : String),
      (declaredNames (Declaration.ofTree source tree))[i]? = some outer.name →
      (declaredNames (Declaration.ofTree source tree))[j]? = some v →
      inner.Calls source v → (j : Int) ∈ (build reader unit grammar source before).targets i) ∧
    (∀ (i k : Nat) (u w : String),
      (declaredNames (Declaration.ofTree source tree))[i]? = some u →
      (declaredNames (Declaration.ofTree source tree))[k]? = some w →
      (∀ inner ∈ Declaration.ofTree source tree, inner.name = w →
        ∃ outer ∈ Declaration.ofTree source tree, outer.name = u ∧ inner.body.Within outer.body) →
      ∀ id ∈ (build reader unit grammar source before).targets k,
        id ∈ (build reader unit grammar source before).targets i) := by
  have h := describes_build reader unit grammar source before
  rw [declarations_eq hblank hread] at h
  refine ⟨h, fun inner _ outer houter hin i j v hi hj => h.mem_targets_of_nested houter hin hi hj, ?_⟩
  intro i k u w hi hk hnested id hid
  obtain ⟨j, v, rfl, hj, inner, hinner, hname, hcalls⟩ := (h.targets k w hk id).mp hid
  obtain ⟨outer, houter, rfl, hin⟩ := hnested inner hinner hname
  exact h.mem_targets_of_nested houter hin hi hj hcalls

/-- A function that declares another one, and a third one that only the inner one calls. -/
def nestedSource : List Char :=
  "function outer() { function inner() { return leaf(); } return inner(); }\nfunction leaf() { return 1; }".toList

theorem nestedSource_described : ∃ tree, Script.parse .typescript nestedSource = some tree ∧
    Text.isBlankText nestedSource = false ∧
    declaredNames (Declaration.ofTree nestedSource tree) = ["outer", "inner", "leaf"] ∧
    Describes nestedSource "snippet.ts" (Declaration.ofTree nestedSource tree)
      (build Script.parse "snippet.ts" .typescript nestedSource none) ∧
    (build Script.parse "snippet.ts" .typescript nestedSource none).edges = [[2, 1], [2], []] := by
  have hparse : (Script.parse .typescript nestedSource).map (declaredNames <| Declaration.ofTree nestedSource ·) =
      some ["outer", "inner", "leaf"] := by decide +kernel
  obtain ⟨tree, hread, hnames⟩ := Option.map_eq_some_iff.mp hparse
  have hblank : Text.isBlankText nestedSource = false := by decide +kernel
  exact ⟨tree, hread, hblank, hnames, (build_describes_declarations hblank hread _ none).1, by decide +kernel⟩

end CallGraph

end RiskGauge
