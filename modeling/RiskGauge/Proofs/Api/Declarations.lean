import Mathlib.Data.List.Basic
import Mathlib.Data.List.Flatten
import RiskGauge.Graph.Declaration
import RiskGauge.Script.Parse

/-!
# The declarations of an API and those of a graph

The declarations of a tree are listed twice: for an API (`Api.signaturesOf`), where a statement of bindings counts once,
and for a graph (`Declaration.ofTree`), where it counts once for each function, and where interfaces and types do not
count at all. What a single node gives to the two lists is said first, and the lists are compared after that:

* `Declaration.bindings_cases`: a statement of bindings gives nothing to both lists, or to the first list what its first
  function gives to the second one;
* `Declaration.map_signature_ofVisit`: all other nodes give the same to both lists;
* `Declaration.filter_signature?`: so the first list has the first declaration of each node.
-/

namespace RiskGauge

/-- The kind of a node in a graph as a kind of an API. -/
def GraphNodeKind.apiKind : GraphNodeKind → Api.Kind
  | function => .function
  | var => .var
  | classDecl => .classDecl

/-- There are nodes of this kind in graphs. -/
def Api.Kind.isGraphed : Api.Kind → Bool
  | function | classDecl | var => true
  | interface | type => false

/-- The first binding of a statement that is a function, and the function. -/
def SyntaxTree.FirstFunction (statement binding value : SyntaxTree) : Prop :=
  ∃ before after, statement.children = before ++ binding :: after ∧ (∀ b ∈ before, b.functionValue? = none) ∧
    binding.functionValue? = some value

namespace Declaration

variable {source : List Char} {v : SyntaxTree.Visit}

/-- A declaration of a graph as one of an API. -/
def signature (d : Declaration) : Api.Signature where
  kind := d.kind.apiKind
  name := d.name
  text := d.text

/-! ## What a node gives to the lists -/

theorem filter_kind? (k : NodeKind) : (Api.kind? k).filter (·.isGraphed) = (kind? k).map (·.apiKind) := by
  cases k <;> rfl

theorem kind?_of_isBindingStatement (h : v.tree.isBindingStatement = true) :
    Api.kind? v.tree.kind = none ∧ kind? v.tree.kind = none := by
  simp only [SyntaxTree.isBindingStatement, Bool.or_eq_true, decide_eq_true_eq] at h
  rcases h with h | h <;> rw [h] <;> exact ⟨rfl, rfl⟩

theorem kind_of_mem_ofVisit {d : Declaration} (h : v.tree.isBindingStatement = true) (hd : d ∈ ofVisit source v) :
    d.kind = .var := by
  simp only [ofVisit, (kind?_of_isBindingStatement h).2, h, if_true, List.mem_filterMap, Option.map_eq_some_iff] at hd
  obtain ⟨binding, -, value, -, rfl⟩ := hd
  rfl

/-- A statement of bindings declares nothing in either way, or its signature is that of its first function, which is
the first of its declarations. -/
theorem bindings_cases (source : List Char) (h : v.tree.isBindingStatement = true) :
    Api.signature? source v = none ∧ ofVisit source v = [] ∨
    ∃ binding value rest, v.tree.FirstFunction binding value ∧
      ofVisit source v = ofNode source v .var (binding.child? .name) binding value :: rest ∧
      Api.signature? source v = some (ofNode source v .var (binding.child? .name) binding value).signature := by
  obtain ⟨hkind, hkind'⟩ := kind?_of_isBindingStatement h
  simp only [Api.signature?, ofVisit, hkind, hkind', h, if_true]
  cases hfind : v.tree.children.find? (·.functionValue?.isSome) with
  | none =>
    have hnone : ∀ b ∈ v.tree.children, b.functionValue? = none := by simpa using hfind
    exact .inl ⟨rfl, List.filterMap_eq_nil_iff.mpr fun b hb => by simp [hnone b hb]⟩
  | some binding =>
    obtain ⟨hsome, before, after, hchildren, hbefore⟩ := List.find?_eq_some_iff_append.mp hfind
    obtain ⟨value, hvalue⟩ := Option.isSome_iff_exists.mp hsome
    have hnone : ∀ b ∈ before, b.functionValue? = none := by simpa using hbefore
    refine .inr ⟨binding, value,
      after.filterMap fun b => b.functionValue?.map (ofNode source v .var (b.child? .name) b),
      ⟨before, after, hchildren, hnone, hvalue⟩, ?_, rfl⟩
    rw [hchildren, List.filterMap_append, List.filterMap_cons, hvalue,
      List.filterMap_eq_nil_iff.mpr fun b hb => by simp [hnone b hb]]
    rfl

/-- A node that is no statement of bindings makes the same declaration in both ways, if it is of a kind that graphs
have. -/
theorem map_signature_ofVisit (source : List Char) (h : v.tree.isBindingStatement = false) :
    (ofVisit source v).map signature = ((Api.signature? source v).filter (·.kind.isGraphed)).toList := by
  have hkinds := filter_kind? v.tree.kind
  simp only [Api.signature?, ofVisit, h]
  cases hkind : kind? v.tree.kind with
  | some kind =>
    rw [hkind, Option.map_some, Option.filter_eq_some_iff] at hkinds
    obtain ⟨hapi, hgraphed⟩ := hkinds
    cases v.tree.child? .name with
    | none => simp [hapi]
    | some name => simp [hapi, Option.filter, hgraphed, signature, ofNode, SyntaxTree.textOf]
  | none =>
    rw [hkind, Option.map_none] at hkinds
    cases hapi : Api.kind? v.tree.kind with
    | none => simp
    | some kind =>
      have hother : kind.isGraphed = false := by simpa [hapi] using hkinds
      cases v.tree.child? .name <;> simp [hother]

/-- Of the kinds that graphs have, a node gives its first declaration to the API. -/
theorem filter_signature? (source : List Char) (v : SyntaxTree.Visit) :
    (Api.signature? source v).filter (·.kind.isGraphed) = (ofVisit source v).head?.map signature := by
  cases h : v.tree.isBindingStatement with
  | true =>
    obtain ⟨hnone, hnil⟩ | ⟨binding, value, rest, -, hvisit, hsome⟩ := bindings_cases source h
    · rw [hnone, hnil]
      rfl
    · rw [hsome, hvisit]
      rfl
  | false =>
    rw [← List.head?_map, map_signature_ofVisit source h]
    cases (Api.signature? source v).filter (·.kind.isGraphed) <;> rfl

/-- A node gives the same functions and classes to both lists. -/
theorem filter_map_signature (source : List Char) (v : SyntaxTree.Visit) :
    ((ofVisit source v).map signature).filter (·.kind ≠ .var) =
      ((Api.signature? source v).filter (·.kind.isGraphed)).toList.filter (·.kind ≠ .var) := by
  cases h : v.tree.isBindingStatement with
  | true =>
    have hvar : ∀ s ∈ (ofVisit source v).map signature, s.kind = .var := by
      intro s hs
      obtain ⟨d, hd, rfl⟩ := List.mem_map.mp hs
      rw [signature, kind_of_mem_ofVisit h hd]
      rfl
    have hfirst : ∀ s ∈ ((ofVisit source v).head?.map signature).toList, s.kind = .var := by
      intro s hs
      rw [← List.head?_map, Option.mem_toList] at hs
      exact hvar s (List.mem_of_mem_head? hs)
    rw [filter_signature?, List.filter_eq_nil_iff.mpr (by simpa using hvar),
      List.filter_eq_nil_iff.mpr (by simpa using hfirst)]
  | false => rw [map_signature_ofVisit source h]

/-! ## The lists of a tree -/

/-- The signatures of the kinds that graphs have. -/
def graphedSignatures (source : List Char) (tree : SyntaxTree) : List Api.Signature :=
  (Api.signaturesOf source tree).filter (·.kind.isGraphed)

/-- The declarations of a graph as declarations of an API. -/
def declaredSignatures (source : List Char) (tree : SyntaxTree) : List Api.Signature :=
  (ofTree source tree).map signature

theorem graphedSignatures_eq (source : List Char) (tree : SyntaxTree) :
    graphedSignatures source tree =
      tree.walk.flatMap fun v => ((Api.signature? source v).filter (·.kind.isGraphed)).toList := by
  rw [graphedSignatures, Api.signaturesOf, List.filter_filterMap, List.filterMap_eq_flatMap_toList]

theorem declaredSignatures_eq (source : List Char) (tree : SyntaxTree) :
    declaredSignatures source tree = tree.walk.flatMap fun v => (ofVisit source v).map signature := by
  rw [declaredSignatures, ofTree, List.map_flatMap]

theorem graphedSignatures_sublist (source : List Char) (tree : SyntaxTree) :
    (graphedSignatures source tree).Sublist (declaredSignatures source tree) := by
  rw [graphedSignatures_eq, declaredSignatures_eq]
  refine List.Sublist.flatMap_right _ fun v _ => ?_
  rw [filter_signature?, ← List.head?_map]
  cases (ofVisit source v).map signature with
  | nil => exact .slnil
  | cons s rest => exact List.singleton_sublist.mpr List.mem_cons_self

theorem graphedSignatures_filter_ne_var (source : List Char) (tree : SyntaxTree) :
    (graphedSignatures source tree).filter (·.kind ≠ .var) =
      (declaredSignatures source tree).filter (·.kind ≠ .var) := by
  rw [graphedSignatures_eq, declaredSignatures_eq, List.filter_flatMap, List.filter_flatMap]
  exact congrArg (tree.walk.flatMap ·) (funext fun v => (filter_map_signature source v).symm)

/-- The two lists of a tree agree. The functions, classes and bindings of the API are declarations of the graph in the
same order, and there are no other functions and classes in the graph. A statement of bindings either has no function
and adds to neither list, or it adds to the API what its first function adds to the graph. -/
theorem signatures_agree (source : List Char) (tree : SyntaxTree) :
    (graphedSignatures source tree).Sublist (declaredSignatures source tree) ∧
    (graphedSignatures source tree).filter (·.kind ≠ .var) =
      (declaredSignatures source tree).filter (·.kind ≠ .var) ∧
    ∀ v ∈ tree.walk, v.tree.isBindingStatement = true →
      Api.signature? source v = none ∧ ofVisit source v = [] ∨
      ∃ binding value, v.tree.FirstFunction binding value ∧ ∃ d ∈ ofTree source tree,
        d = ofNode source v .var (binding.child? .name) binding value ∧ (ofVisit source v).head? = some d ∧
          Api.signature? source v = some d.signature ∧ d.signature ∈ graphedSignatures source tree := by
  refine ⟨graphedSignatures_sublist source tree, graphedSignatures_filter_ne_var source tree, fun v hv h => ?_⟩
  refine (bindings_cases source h).imp_right ?_
  rintro ⟨binding, value, rest, hfirst, hvisit, hsignature⟩
  refine ⟨binding, value, hfirst, _, List.mem_flatMap.mpr ⟨v, hv, ?_⟩, rfl, ?_, hsignature, ?_⟩
  · rw [hvisit]
    exact List.mem_cons_self
  · rw [hvisit, List.head?_cons]
  · exact List.mem_filter.mpr ⟨List.mem_filterMap.mpr ⟨v, hv, hsignature⟩, rfl⟩

/-- A statement with three bindings, of which the last two are functions, and a type. -/
def bindingsSource : List Char :=
  "export const f = 1, g = () => f, h = function () { return g(); };\ntype T = string;".toList

/-- The statement adds its second binding to the API, and its last two bindings to the graph. -/
theorem bindingsSource_agrees : ∃ tree v, Script.parse .typescript bindingsSource = some tree ∧ v ∈ tree.walk ∧
    v.tree.isBindingStatement = true ∧
    (graphedSignatures bindingsSource tree).map (·.name) = ["g"] ∧
    (declaredSignatures bindingsSource tree).map (·.name) = ["g", "h"] ∧
    ∃ binding value, v.tree.FirstFunction binding value ∧
      Api.signature? bindingsSource v =
        some (ofNode bindingsSource v .var (binding.child? .name) binding value).signature := by
  have hread : (Script.parse .typescript bindingsSource).bind (fun tree =>
      (tree.walk.find? (·.tree.isBindingStatement)).map fun v =>
        ((graphedSignatures bindingsSource tree).map (·.name),
          (declaredSignatures bindingsSource tree).map (·.name), (Api.signature? bindingsSource v).isSome)) =
      some (["g"], ["g", "h"], true) := by decide +kernel
  obtain ⟨tree, htree, hfind⟩ := Option.bind_eq_some_iff.mp hread
  obtain ⟨v, hv, hnames⟩ := Option.map_eq_some_iff.mp hfind
  obtain ⟨hgraphed, hdeclared, hsome⟩ : _ ∧ _ ∧ _ := by simpa using hnames
  have hmem := List.mem_of_find?_eq_some hv
  have hbinding := List.find?_some hv
  refine ⟨tree, v, htree, hmem, hbinding, by simpa using hgraphed, by simpa using hdeclared, ?_⟩
  obtain ⟨hnone, -⟩ | ⟨binding, value, hfirst, d, -, rfl, -, hd, -⟩ :=
    (signatures_agree bindingsSource tree).2.2 v hmem hbinding
  · rw [hnone] at hsome
    cases hsome
  · exact ⟨binding, value, hfirst, hd⟩

end Declaration

end RiskGauge
