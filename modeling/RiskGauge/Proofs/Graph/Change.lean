import RiskGauge.Proofs.Entries
import RiskGauge.Proofs.Graph.Impact

/-!
# What counts as changed

With an earlier version of a source, a declaration is compared with the last one of its name in that version. A blank
earlier version counts as none (`build_blank_before`). If the earlier version is the source itself:

* `mem_changed_same`: a node is changed exactly if its name has declarations of different texts;
* `changed_same_eq_nil_iff`: nothing is changed exactly if each name has one text;
* `score_of_unchanged`, `score_pos_of_changed`: the score is zero exactly if nothing is changed.
-/

namespace RiskGauge

namespace Declaration

/-- All declarations of a name have the same text. -/
def OneTextEach (ds : List Declaration) : Prop :=
  ∀ d ∈ ds, ∀ e ∈ ds, d.name = e.name → d.text = e.text

end Declaration

namespace CallGraph

open Declaration (declaredNames OneTextEach)

/-! ## Comparing with the last declarations -/

section Same

variable {ds : List Declaration}

theorem find?_latestTexts (ds : List Declaration) (name : String) :
    (latestTexts ds).find? name = (ds.reverse.find? (·.name = name)).map (·.text) := by
  rw [latestTexts, Entries.find?_ofPairs, ← List.map_reverse, List.find?_map, Option.map_map]
  rfl

/-- The last text of a name is not that of a declaration exactly if some text of the name is not. -/
theorem find?_latestTexts_ne_iff {name : String} (h : name ∈ declaredNames ds) :
    (∃ d ∈ ds, d.name = name ∧ (latestTexts ds).find? d.name ≠ some d.text) ↔
      ∃ d ∈ ds, ∃ e ∈ ds, d.name = name ∧ e.name = name ∧ d.text ≠ e.text := by
  have hreverse : name ∈ declaredNames ds.reverse := by
    simpa [Declaration.mem_declaredNames] using h
  obtain ⟨last, hlast, hmem, hname⟩ := Declaration.exists_find?_of_mem hreverse
  rw [List.mem_reverse] at hmem
  have htext : (latestTexts ds).find? name = some last.text := by rw [find?_latestTexts, hlast, Option.map_some]
  constructor
  · rintro ⟨d, hd, rfl, hne⟩
    rw [htext] at hne
    exact ⟨d, hd, last, hmem, rfl, hname, fun e => hne (congrArg some e.symm)⟩
  · rintro ⟨d, hd, e, he, rfl, hename, hne⟩
    by_cases hdl : last.text = d.text
    · refine ⟨e, he, hename, ?_⟩
      rw [hename, htext, hdl]
      exact fun h => hne (Option.some.inj h)
    · exact ⟨d, hd, rfl, by rw [htext]; exact fun h => hdl (Option.some.inj h)⟩

theorem mem_insertId {ids : List Int} {id x : Int} : x ∈ insertId ids id ↔ x ∈ ids ∨ x = id := by
  unfold insertId
  split
  · rename_i h
    exact ⟨.inl, fun hx => hx.elim (fun hx => hx) fun e => e ▸ h⟩
  · simp

theorem mem_distinct {ids : List Int} {x : Int} : x ∈ distinct ids ↔ x ∈ ids := by
  have hfold : ∀ seen : List Int, x ∈ ids.foldl insertId seen ↔ x ∈ seen ∨ x ∈ ids := by
    induction ids with
    | nil => simp
    | cons id ids ih =>
      intro seen
      rw [List.foldl_cons, ih, mem_insertId, List.mem_cons, or_assoc]
  simpa [distinct] using hfold []

theorem mem_changedSince {before : Entries String} {ds : List (Declaration × Nat)} {id : Int} :
    id ∈ changedSince before ds ↔ ∃ (d : Declaration) (i : Nat), (d, i) ∈ ds ∧ id = i ∧
      before.find? d.name ≠ some d.text := by
  simp only [changedSince, mem_distinct, List.mem_map, List.mem_filter, decide_eq_true_eq, Prod.exists,
    Int.ofNat_eq_natCast]
  constructor
  · rintro ⟨d, i, ⟨hmem, hne⟩, rfl⟩
    exact ⟨d, i, hmem, rfl, hne⟩
  · rintro ⟨d, i, hmem, rfl, hne⟩
    exact ⟨d, i, ⟨hmem, hne⟩, rfl⟩

/-- If the earlier version is the source itself, its declarations are compared with their own last texts. A source
that is blank or cannot be read has no declarations to compare. -/
theorem changed_same (reader : SourceReader) (unit : String) (grammar : Grammar) (source : List Char) :
    (build reader unit grammar source (some source)).changed =
      changedSince (latestTexts (declarations reader grammar source))
        (numbered unit (declarations reader grammar source)) := by
  rw [build_eq]
  cases hblank : Text.isBlankText source with
  | true =>
    rw [show declarations reader grammar source = [] by simp [declarations, hblank]]
    exact changedIds_of_empty reader grammar unit (some source)
  | false =>
    cases hread : reader grammar source with
    | none =>
      rw [show declarations reader grammar source = [] by simp [declarations, hblank, hread]]
      exact changedIds_of_empty reader grammar unit (some source)
    | some tree =>
      rw [declarations_eq hblank hread]
      simp [changedIds, hblank, hread]

/-- A node is changed although its source is not, exactly if its name has declarations of different texts. -/
theorem mem_changed_same (reader : SourceReader) (unit : String) (grammar : Grammar) (source : List Char) (id : Int) :
    id ∈ (build reader unit grammar source (some source)).changed ↔
      ∃ (i : Nat) (name : String), id = i ∧ (declaredNames (declarations reader grammar source))[i]? = some name ∧
        ∃ d ∈ declarations reader grammar source, ∃ e ∈ declarations reader grammar source,
          d.name = name ∧ e.name = name ∧ d.text ≠ e.text := by
  rw [changed_same, mem_changedSince]
  constructor
  · rintro ⟨d, i, hd, rfl, hne⟩
    obtain ⟨hmem, hplace⟩ := mem_numbered.mp hd
    exact ⟨i, d.name, rfl, hplace,
      (find?_latestTexts_ne_iff (List.mem_of_getElem? hplace)).mp ⟨d, hmem, rfl, hne⟩⟩
  · rintro ⟨i, name, rfl, hplace, hdiffer⟩
    obtain ⟨d, hd, rfl, hne⟩ := (find?_latestTexts_ne_iff (List.mem_of_getElem? hplace)).mpr hdiffer
    exact ⟨d, i, mem_numbered.mpr ⟨hd, hplace⟩, rfl, hne⟩

theorem changed_same_eq_nil_iff (reader : SourceReader) (unit : String) (grammar : Grammar) (source : List Char) :
    (build reader unit grammar source (some source)).changed = [] ↔
      OneTextEach (declarations reader grammar source) := by
  rw [List.eq_nil_iff_forall_not_mem]
  constructor
  · intro h d hd e he hname
    by_contra hne
    obtain ⟨i, hi⟩ := List.mem_iff_getElem?.mp (Declaration.mem_declaredNames.mpr ⟨d, hd, rfl⟩)
    exact h i ((mem_changed_same reader unit grammar source i).mpr
      ⟨i, d.name, rfl, hi, d, hd, e, he, rfl, hname.symm, hne⟩)
  · intro h id hid
    obtain ⟨i, name, -, -, d, hd, e, he, hdname, hename, hne⟩ := (mem_changed_same reader unit grammar source id).mp hid
    exact hne (h d hd e he (hdname.trans hename.symm))

end Same

/-! ## Comparing with nothing -/

theorem ids_addDeclarations_append (g : CallGraph) (ds : List Declaration) (d : Declaration) :
    (addDeclarations g (ds ++ [d])).2 =
      (addDeclarations g ds).2 ++ [((addDeclarations g ds).1.addNode (d.toNode g.unit)).2] := by
  induction ds generalizing g with
  | nil => rfl
  | cons e ds ih =>
    rw [List.cons_append, addDeclarations_cons, addDeclarations_cons, ih, addNode_unit, List.cons_append]

theorem distinct_append_singleton (ids : List Int) (id : Int) :
    distinct (ids ++ [id]) = insertId (distinct ids) id := by
  simp [distinct]

/-- Adding a node puts its id behind the ids, unless it is there. -/
theorem ids_addNode (g : CallGraph) (n : GraphNode) :
    (g.addNode n).1.ids = insertId g.ids (g.addNode n).2 := by
  cases h : g.index? n.key with
  | some i =>
    have hlt : i < g.size := (List.findIdx?_eq_some_iff_findIdx_eq.mp h).1
    have hmem : (i : Int) ∈ g.ids := mem_ids.mpr ⟨i, hlt, rfl⟩
    simp only [addNode, h, insertId, hmem, if_true]
    simp [ids, size]
  | none =>
    have hnew : (g.size : Int) ∉ g.ids := by
      intro hmem
      obtain ⟨i, hi, hsize⟩ := mem_ids.mp hmem
      omega
    simp only [addNode, h, insertId, hnew, if_false]
    simp [ids, size, List.range_succ]

/-- The declarations of a graph have the ids of all its nodes, in their order. -/
theorem distinct_ids_addDeclarations (unit : String) (ds : List Declaration) :
    distinct ((addDeclarations { unit } ds).2.map Int.ofNat) = (addDeclarations { unit } ds).1.ids := by
  induction ds using List.reverseRecOn with
  | nil => rfl
  | append_singleton ds d ih =>
    rw [ids_addDeclarations_append, addDeclarations_append, List.map_append, List.map_singleton,
      distinct_append_singleton, ih, ids_addNode]
    rfl

theorem length_ids_addDeclarations (unit : String) (ds : List Declaration) :
    (addDeclarations { unit } ds).2.length = ds.length := by
  simpa using congrArg List.length (map_some_addDeclarations { unit } ds)

theorem map_fst_numbered (unit : String) (ds : List Declaration) : (numbered unit ds).map Prod.fst = ds :=
  List.map_fst_zip (Nat.le_of_eq (length_ids_addDeclarations unit ds).symm)

theorem map_snd_numbered (unit : String) (ds : List Declaration) :
    (numbered unit ds).map Prod.snd = (addDeclarations { unit } ds).2 :=
  List.map_snd_zip (Nat.le_of_eq (length_ids_addDeclarations unit ds))

/-- Compared with nothing, all declarations are new, and each node has one. -/
theorem changedSince_nil (unit : String) (ds : List Declaration) :
    changedSince [] (numbered unit ds) = (addDeclarations { unit } ds).1.ids := by
  have hall : (numbered unit ds).filter (fun p => Entries.find? p.1.name [] ≠ some p.1.text) = numbered unit ds :=
    List.filter_eq_self.mpr fun p _ => by simp [Entries.find?]
  calc changedSince [] (numbered unit ds)
      = distinct (((numbered unit ds).map Prod.snd).map Int.ofNat) := by
        rw [changedSince, hall, List.map_map]
        rfl
    _ = (addDeclarations { unit } ds).1.ids := by rw [map_snd_numbered, distinct_ids_addDeclarations]

theorem ids_ofDeclarations (source : List Char) (unit : String) (ds : List Declaration) :
    (ofDeclarations source unit ds).ids = (addDeclarations { unit } ds).1.ids := by
  rw [ids, ids, (sameNodes_ofDeclarations source unit ds).size]
  rfl

/-- A blank earlier version leaves as much unchanged as none: nothing. -/
theorem build_blank_before (reader : SourceReader) (unit : String) (grammar : Grammar) (source : List Char)
    {before : List Char} (h : Text.isBlankText before = true) :
    build reader unit grammar source (some before) = build reader unit grammar source none := by
  rw [build_eq, build_eq]
  simp only [changedIds, h, if_true, changedSince_nil, ids_ofDeclarations]

/-! ## The impact of no change -/

section NoChange

variable {g : CallGraph} {f : Functionality ℚ}

theorem nodes_ne_nil_of_functionality? (hf : g.functionality? = some f) : g.nodes ≠ [] := by
  intro hnone
  simp [functionality?, hnone] at hf

theorem score_of_unchanged (h : g.changed = []) (hf : g.functionality? = some f) : f.score = 0 := by
  have hnodes := nodes_ne_nil_of_functionality? hf
  rw [functionality?_eq hnodes, h, reachable_nil, entrypointRatio_eq, reachRatio_eq, centrality_eq,
    meanDegree_eq g []] at hf
  have hzero : (Scalar.clamp (0 : ℚ)) = 0 := Scalar.clamp_of_mem le_rfl zero_le_one
  rw [← Option.some.inj hf]
  norm_num [hzero]

/-- A changed node of a graph is itself reached, so that the score is not zero. -/
theorem score_pos_of_changed (h : g.changed ≠ []) (hf : g.functionality? = some f) : 0 < f.score := by
  have hnodes := nodes_ne_nil_of_functionality? hf
  obtain ⟨id, hid⟩ := List.exists_mem_of_ne_nil _ h
  have hlen : 0 < (g.reachable g.changed).length := List.length_pos_of_mem (mem_reachable_of_mem hid)
  have hreach : (0 : ℚ) < g.reachRatio (g.reachable g.changed) := by
    rw [reachRatio_eq]
    positivity
  have hentry := g.entrypointRatio_nonneg (g.reachable g.changed)
  have hcentral := g.centrality_nonneg g.changed
  rw [functionality?_eq hnodes] at hf
  rw [← Option.some.inj hf]
  dsimp only
  positivity

end NoChange

/-- A source compared with itself: the changed nodes are those whose names have declarations of different texts.
Nothing is changed, and there is no impact, exactly if there is no such name. -/
theorem unchanged_iff_oneTextEach (reader : SourceReader) (unit : String) (grammar : Grammar) (source : List Char) :
    ((build reader unit grammar source (some source)).changed = [] ↔
      OneTextEach (declarations reader grammar source)) ∧
    ((∀ f : Functionality ℚ, (build reader unit grammar source (some source)).functionality? = some f → f.score = 0) ↔
      OneTextEach (declarations reader grammar source)) ∧
    (∀ id : Int, id ∈ (build reader unit grammar source (some source)).changed ↔
      ∃ (i : Nat) (name : String), id = i ∧ (declaredNames (declarations reader grammar source))[i]? = some name ∧
        ∃ d ∈ declarations reader grammar source, ∃ e ∈ declarations reader grammar source,
          d.name = name ∧ e.name = name ∧ d.text ≠ e.text) := by
  have hchanged := changed_same_eq_nil_iff reader unit grammar source
  refine ⟨hchanged, ?_, mem_changed_same reader unit grammar source⟩
  rw [← hchanged]
  constructor
  · intro h
    by_contra hne
    obtain ⟨id, hid⟩ := List.exists_mem_of_ne_nil _ hne
    obtain ⟨i, name, -, hplace, -⟩ := (mem_changed_same reader unit grammar source id).mp hid
    have hnodes : (build reader unit grammar source (some source)).nodes ≠ [] := by
      intro hnone
      have := (describes_build reader unit grammar source (some source)).nodes
      rw [hnone, List.map_nil, eq_comm, List.map_eq_nil_iff] at this
      simp [this] at hplace
    have hf := functionality?_eq hnodes
    exact (score_pos_of_changed hne hf).ne' (h _ hf)
  · exact fun h f hf => score_of_unchanged h hf

/-- Two functions with a local helper of the same name. -/
def helpersSource : List Char :=
  "function a() { const h = () => 1; return h(); }\nfunction b() { const h = () => 2; return h(); }".toList

/-- The helper of the first function differs from that of the second one, which is the last of its name: the source
counts as changed against itself, and the score is `0.25`. -/
theorem helpersSource_changed :
    (build Script.parse "snippet.ts" .typescript helpersSource (some helpersSource)).changed = [1] ∧
    ((build Script.parse "snippet.ts" .typescript helpersSource (some helpersSource)).functionality? :
      Option (Functionality Float)).map (·.score) = some 0.25 := by
  have hchanged : (build Script.parse "snippet.ts" .typescript helpersSource (some helpersSource)).changed = [1] := by
    decide +kernel
  have htargets : (build Script.parse "snippet.ts" .typescript helpersSource (some helpersSource)).targets 1 = [] := by
    decide +kernel
  have hreach : (build Script.parse "snippet.ts" .typescript helpersSource (some helpersSource)).reachable [1] = [1] :=
    List.perm_singleton.mp (perm_reachable (List.nodup_singleton 1) (by simp [htargets]))
  refine ⟨hchanged, ?_⟩
  simp only [functionality?, hchanged, hreach]
  decide +kernel

end CallGraph

end RiskGauge
