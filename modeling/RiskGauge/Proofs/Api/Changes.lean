import RiskGauge.Api.Diff
import RiskGauge.Proofs.Api.Declarations
import RiskGauge.Proofs.Graph.Change

/-!
# Changes of an API and changed nodes

Two versions of a source are compared twice. The API counts names, added ones in the new list and changed ones in the old
list (`Api.diff`); the graph marks the ids of the declarations that are new or have another text (`CallGraph.changedSince`).

* `Api.added_add_changed`: what is added or changed in an API are the names of the new version that have another last
  text in the old one, or none;
* `Declaration.graphedSignatures_eq_declared`: both read the same declarations, if no statement of bindings has more than
  one function;
* `CallGraph.changedSince_of_nodup`: the ids of declarations with different names are different, so that a node is marked
  for each declaration that differs.
-/

namespace RiskGauge

/-- No statement of bindings in the tree has more than one function. -/
def SyntaxTree.OneFunctionEach (tree : SyntaxTree) : Prop :=
  ∀ v ∈ tree.walk, v.tree.isBindingStatement = true → v.tree.children.countP (·.functionValue?.isSome) ≤ 1

instance (tree : SyntaxTree) : Decidable tree.OneFunctionEach :=
  inferInstanceAs (Decidable (∀ v ∈ tree.walk, _ → _))

namespace Api

variable (before after : List Signature)

/-- The changes of the functions, classes and bindings from one source to another. -/
def graphedDiff (reader : SourceReader) (grammar : Grammar) (before after : List Char) : Diff :=
  diff ((signatures reader grammar before).filter (·.kind.isGraphed))
    ((signatures reader grammar after).filter (·.kind.isGraphed))

theorem nodup_names_latest (xs : List Signature) : (latest xs).names.Nodup :=
  Entries.nodup_names_ofPairs _

/-- The names that are changed can be counted in either list. -/
theorem changed_diff : (diff before after).changed =
    (latest after).countP fun e => ((latest before).find? e.1).any (· ≠ e.2) := by
  refine Entries.countP_eq_of_names (nodup_names_latest before) (nodup_names_latest after) fun name => ?_
  dsimp only
  generalize (latest before).find? name = old
  generalize (latest after).find? name = new
  cases old <;> cases new <;> simp [eq_comm]

/-- A name is added or changed exactly if its last text was not its last text before. -/
theorem added_add_changed : (diff before after).added + (diff before after).changed =
    (latest after).countP fun e => (latest before).find? e.1 ≠ some e.2 := by
  have hadded : (diff before after).added = (latest after).countP fun e => !(latest before).has e.1 := rfl
  rw [hadded, changed_diff]
  induction latest after with
  | nil => rfl
  | cons e es ih =>
    simp only [List.countP_cons, ← ih]
    cases hfind : (latest before).find? e.1 with
    | none =>
      simp [Entries.has, hfind]
      omega
    | some old =>
      by_cases hold : old = e.2 <;> simp [Entries.has, hfind, hold]
      omega

end Api

namespace Declaration

variable {source : List Char} {tree : SyntaxTree} {v : SyntaxTree.Visit}

theorem length_ofVisit (source : List Char) (h : v.tree.isBindingStatement = true) :
    (ofVisit source v).length = v.tree.children.countP (·.functionValue?.isSome) := by
  simp only [ofVisit, (kind?_of_isBindingStatement h).2, h, if_true]
  rw [List.length_filterMap_eq_countP]
  exact List.countP_congr fun b _ => by simp

/-- If statements of bindings have at most one function each, the API and the graph have the same declarations. -/
theorem graphedSignatures_eq_declared (source : List Char) (h : tree.OneFunctionEach) :
    graphedSignatures source tree = declaredSignatures source tree := by
  rw [graphedSignatures_eq, declaredSignatures_eq]
  refine List.flatMap_congr fun v hv => ?_
  cases hbinding : v.tree.isBindingStatement with
  | false => exact (map_signature_ofVisit source hbinding).symm
  | true =>
    have hlength := length_ofVisit source hbinding ▸ h v hv hbinding
    rw [filter_signature?]
    match hvisit : ofVisit source v with
    | [] => rfl
    | [d] => rfl
    | d :: e :: ds => simp [hvisit] at hlength

end Declaration

namespace CallGraph

variable {ds : List Declaration}

theorem distinct_of_nodup {ids : List Int} (h : ids.Nodup) : distinct ids = ids := by
  induction ids using List.reverseRecOn with
  | nil => rfl
  | append_singleton ids id ih =>
    rw [List.nodup_append] at h
    have hnew : id ∉ ids := fun hid => h.2.2 id hid id (by simp) rfl
    rw [distinct_append_singleton, ih h.1, insertId, if_neg hnew]

/-- Declarations of different names have different ids. -/
theorem nodup_ids_addDeclarations (unit : String) (h : (ds.map (·.name)).Nodup) :
    (addDeclarations { unit } ds).2.Nodup := by
  have hids : (addDeclarations { unit } ds).2.map some = (ds.map (·.name)).map (addDeclarations { unit } ds).1.idOf? := by
    rw [List.map_map]
    exact map_some_addDeclarations { unit } ds
  refine List.Nodup.of_map some (hids ▸ h.map_on fun name hname other _ hsame => ?_)
  obtain ⟨d, hd, rfl⟩ := List.mem_map.mp hname
  obtain ⟨i, hi⟩ := List.mem_iff_getElem?.mp (Declaration.mem_declaredNames.mpr ⟨d, hd, rfl⟩)
  have hid : (addDeclarations { unit } ds).1.idOf? d.name = some i := idOf?_addDeclarations_eq_some.mpr hi
  rw [hsame] at hid
  exact Option.some.inj (hi.symm.trans (idOf?_addDeclarations_eq_some.mp hid))

/-- If no name is declared twice, a node is marked for each declaration that is new or has another text. -/
theorem changedSince_of_nodup (unit : String) (h : (ds.map (·.name)).Nodup) (before : Entries String) :
    (changedSince before (numbered unit ds)).Nodup ∧
    (changedSince before (numbered unit ds)).length = ds.countP fun d => before.find? d.name ≠ some d.text := by
  have hids : ((numbered unit ds).map fun p => Int.ofNat p.2).Nodup := by
    have hall := (nodup_ids_addDeclarations unit h).map Int.ofNat_injective
    rwa [← map_snd_numbered, List.map_map] at hall
  have hkept := hids.sublist ((List.filter_sublist (p := fun p => before.find? p.1.name ≠ some p.1.text)).map _)
  unfold changedSince
  rw [distinct_of_nodup hkept]
  refine ⟨hkept, ?_⟩
  rw [List.length_map, ← List.countP_eq_length_filter]
  conv_rhs => rw [← map_fst_numbered unit ds, List.countP_map]
  rfl

/-! ## The two comparisons of a source -/

section Compare

variable {reader : SourceReader} {grammar : Grammar} {source before : List Char} {tree old : SyntaxTree}

theorem graphedDiff_eq (hsource : Text.isBlankText source = false) (hread : reader grammar source = some tree)
    (hbefore : Text.isBlankText before = false) (hold : reader grammar before = some old) :
    Api.graphedDiff reader grammar before source =
      Api.diff (Declaration.graphedSignatures before old) (Declaration.graphedSignatures source tree) := by
  simp only [Api.graphedDiff, Api.signatures, hsource, hread, hbefore, hold]
  rfl

theorem latest_graphedSignatures (source : List Char) (h : tree.OneFunctionEach) :
    Api.latest (Declaration.graphedSignatures source tree) = latestTexts (Declaration.ofTree source tree) := by
  rw [Declaration.graphedSignatures_eq_declared source h, Declaration.declaredSignatures, Api.latest, List.map_map]
  rfl

/-- The graph and the API agree on how much has changed between two versions that can be read. If the source declares no
name twice, and statements of bindings have at most one function each, there is a changed node for each function, class or
binding that is added to the API or changed in it. The version before may declare a name more than once. -/
theorem changed_nodes_eq_api_changes (hsource : Text.isBlankText source = false) (hread : reader grammar source = some tree)
    (hbefore : Text.isBlankText before = false) (hold : reader grammar before = some old)
    (hnames : ((Declaration.ofTree source tree).map (·.name)).Nodup) (hone : tree.OneFunctionEach)
    (holdOne : old.OneFunctionEach) (unit : String) :
    (build reader unit grammar source (some before)).changed.Nodup ∧
    (build reader unit grammar source (some before)).changed.length =
      (Api.graphedDiff reader grammar before source).added + (Api.graphedDiff reader grammar before source).changed := by
  have hchanged : (build reader unit grammar source (some before)).changed =
      changedSince (latestTexts (Declaration.ofTree before old)) (numbered unit (Declaration.ofTree source tree)) := by
    rw [build_eq, declarations_eq hsource hread]
    simp [changedIds, hbefore, hold]
  -- a name that is declared once has its only text as its last one
  have htexts : latestTexts (Declaration.ofTree source tree) =
      (Declaration.ofTree source tree).map fun d => (d.name, d.text) :=
    Entries.ofPairs_of_nodup (by rw [List.map_map]; exact hnames)
  obtain ⟨hnodup, hlength⟩ := changedSince_of_nodup unit hnames (latestTexts (Declaration.ofTree before old))
  rw [hchanged, graphedDiff_eq hsource hread hbefore hold, Api.added_add_changed, latest_graphedSignatures source hone,
    latest_graphedSignatures before holdOne, htexts, List.countP_map]
  exact ⟨hnodup, hlength⟩

/-- A function, a class and a binding of a function. -/
def earlierSource : List Char :=
  "function a() { return 1; }\nclass C {}\nconst f = () => 1, n = 2;".toList

/-- The function has another body, the binding is exported, a function is new, and the class is gone. -/
def laterSource : List Char :=
  "function a() { return 2; }\nexport const f = () => 1, n = 2;\nfunction g() {}".toList

theorem laterSource_changes : ∃ tree old, Script.parse .typescript laterSource = some tree ∧
    Script.parse .typescript earlierSource = some old ∧
    (Declaration.ofTree laterSource tree).map (·.name) = ["a", "f", "g"] ∧
    tree.OneFunctionEach ∧ old.OneFunctionEach ∧
    (build Script.parse "snippet.ts" .typescript laterSource (some earlierSource)).changed.length = 3 := by
  have hlater : (Script.parse .typescript laterSource).map (fun tree =>
      ((Declaration.ofTree laterSource tree).map (·.name), decide tree.OneFunctionEach,
        Declaration.graphedSignatures laterSource tree)) =
      some (["a", "f", "g"], true,
        [⟨.function, "a", "function a() { return 2; }"⟩, ⟨.var, "f", "export const f = () => 1, n = 2;"⟩,
          ⟨.function, "g", "function g() {}"⟩]) := by decide +kernel
  have hearlier : (Script.parse .typescript earlierSource).map (fun old =>
      (decide old.OneFunctionEach, Declaration.graphedSignatures earlierSource old)) =
      some (true,
        [⟨.function, "a", "function a() { return 1; }"⟩, ⟨.classDecl, "C", "class C {}"⟩,
          ⟨.var, "f", "const f = () => 1, n = 2;"⟩]) := by decide +kernel
  obtain ⟨tree, htree, hpair⟩ := Option.map_eq_some_iff.mp hlater
  obtain ⟨old, hold, hpair'⟩ := Option.map_eq_some_iff.mp hearlier
  simp only [Prod.mk.injEq, decide_eq_true_eq] at hpair hpair'
  obtain ⟨hnames, hone, hsignatures⟩ := hpair
  obtain ⟨holdOne, hsignatures'⟩ := hpair'
  have hsource : Text.isBlankText laterSource = false := by decide +kernel
  have hbefore : Text.isBlankText earlierSource = false := by decide +kernel
  have hcount := (changed_nodes_eq_api_changes hsource htree hbefore hold (by rw [hnames]; decide) hone holdOne
    "snippet.ts").2
  refine ⟨tree, old, htree, hold, hnames, hone, holdOne, ?_⟩
  rw [hcount, graphedDiff_eq hsource htree hbefore hold, hsignatures, hsignatures']
  decide +kernel

end Compare

end CallGraph

end RiskGauge
