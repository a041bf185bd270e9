import RiskGauge.Proofs.Database.Document
import RiskGauge.Proofs.Failure

/-!
# Nulls in documents

A member that is null is as good as missing, in the document of a rule database, in its signatures and in the entries of
their lists. The weights of words are no fields: there a null is a weight that is no number.

* `Json.fields?_withoutNulls`, `Document.object_congr`: a check of an object does not see members that are null;
* `Document.ruleSignature_clean`, `Document.vectorSignature_clean`: a signature, and the notes on its entries, are the
  same without the nulls in it and in the entries of its lists;
* `Document.nulls_as_missing`: so is a database, and an entry is refused for a null where it has to have a value, just
  as if there were none.
-/

namespace RiskGauge

namespace Json

/-- The object without the members that are null. -/
def withoutNulls : Json → Json
  | object members => object (members.filter fun m => !m.2.isNull)
  | v => v

/-- The list with its items changed. -/
def mapItems (f : Json → Json) : Json → Json
  | list items => list (items.map f)
  | v => v

/-- The object with its members changed. -/
def mapMembers (f : String → Json → Json) : Json → Json
  | object members => object (members.map fun m => (m.1, f m.1 m.2))
  | v => v

theorem isNull_mapItems (f : Json → Json) (v : Json) : (v.mapItems f).isNull = v.isNull := by
  cases v <;> rfl

theorem fields?_withoutNulls (v : Json) : v.withoutNulls.fields? = v.fields? := by
  cases v <;> simp [withoutNulls, fields?, List.filter_filter]

/-- A change of members that keeps nulls and makes none is a change of the fields. -/
theorem fields?_mapMembers {f : String → Json → Json} (hf : ∀ name v, (f name v).isNull = v.isNull) (v : Json) :
    (v.mapMembers f).fields? = v.fields?.map fun fields => fields.map fun m => (m.1, f m.1 m.2) := by
  cases v with
  | object members => simp only [mapMembers, fields?, List.filter_map, Option.map_some, Function.comp_def, hf]
  | _ => rfl

end Json

namespace Document

/-! ## Lists of entries -/

section Entries

variable {α : Type} {check : Json → Validated α} {f : Json → Json}

theorem object_congr {v w : Json} (h : v.fields? = w.fields?) (check : Entries Json → Validated α) :
    object check v = object check w := by
  rw [object, object, h]

theorem EntryList.check_congr {v w : Json} (h : v.fields? = w.fields?) (list : EntryList) :
    list.check v = list.check w := by
  cases list <;> exact object_congr h _

theorem entriesFrom_map (hf : ∀ v, check (f v) = check v) (place : String) (position : Nat) (items : List Json) :
    entriesFrom place check position (items.map f) = entriesFrom place check position items := by
  induction items generalizing position with
  | nil => rfl
  | cons v items ih => rw [List.map_cons, entriesFrom, entriesFrom, hf, ih]

theorem entries_mapItems (hf : ∀ v, check (f v) = check v) (place : String) (v : Option Json) :
    entries place check (v.map (·.mapItems f)) = entries place check v := by
  cases v with
  | none => rfl
  | some v =>
    cases v with
    | list items => exact entriesFrom_map hf place 0 items
    | _ => rfl

end Entries

/-! ## Signatures -/

/-- The names of the lists of entries in signatures. -/
def entryLists : List String :=
  ["rules", "cooccur", "proximity", "negatives", "tokenizer_rules", "token_regex"]

open Json Json.Fields

/-- A member of a signature without nulls in its entries, if it is a list of them. -/
def cleanList (name : String) (v : Json) : Json :=
  if entryLists.contains name then v.mapItems withoutNulls else v

/-- A signature without nulls, neither in it nor in the entries of its lists. -/
def cleanSignature (v : Json) : Json :=
  (v.mapMembers cleanList).withoutNulls

/-- The fields of a signature with clean entries. -/
def cleanFields (fields : Entries Json) : Entries Json :=
  fields.map fun m => (m.1, cleanList m.1 m.2)

theorem isNull_cleanList (name : String) (v : Json) : (cleanList name v).isNull = v.isNull := by
  unfold cleanList
  split
  · exact isNull_mapItems withoutNulls v
  · rfl

theorem fields?_cleanSignature (v : Json) : (cleanSignature v).fields? = v.fields?.map cleanFields := by
  rw [cleanSignature, fields?_withoutNulls, fields?_mapMembers isNull_cleanList]
  rfl

section Clean

variable {α : Type} {check : Json → Validated α}

theorem find?_cleanFields (fields : Entries Json) (name : String) :
    (cleanFields fields).find? name = (fields.find? name).map (cleanList name) :=
  Entries.find?_map cleanList fields name

theorem find?_cleanFields_other (fields : Entries Json) {name : String} (hname : entryLists.contains name = false) :
    (cleanFields fields).find? name = fields.find? name := by
  have hsame : cleanList name = id := by
    funext v
    rw [cleanList, hname, if_neg Bool.false_ne_true, id]
  rw [find?_cleanFields, hsame, Option.map_id, id]

theorem entries_cleanFields (fields : Entries Json) (name : String) (hname : entryLists.contains name = true)
    (hcheck : ∀ v, check v.withoutNulls = check v) (place : String) :
    entries place check ((cleanFields fields).find? name) = entries place check (fields.find? name) := by
  have hlist : cleanList name = (·.mapItems withoutNulls) := by
    funext v
    rw [cleanList, hname, if_pos rfl]
  rw [find?_cleanFields, hlist, entries_mapItems hcheck]

theorem required_cleanFields (fields : Entries Json) (name : String) (hname : entryLists.contains name = false) :
    required (cleanFields fields) name check = required fields name check := by
  rw [required, required, find?_cleanFields_other fields hname]

theorem lookup?_cleanFields (fields : Entries Json) {names : List String}
    (hnames : (names.all fun name => !entryLists.contains name) = true) :
    lookup? (cleanFields fields) names = lookup? fields names := by
  induction names with
  | nil => rfl
  | cons name names ih =>
    rw [List.all_cons, Bool.and_eq_true, Bool.not_eq_true'] at hnames
    rw [lookup?, lookup?, find?_cleanFields_other fields hnames.1, ih hnames.2]

theorem orElse_cleanFields (fields : Entries Json) (names : List String)
    (hnames : (names.all fun name => !entryLists.contains name) = true) (standard : α) :
    orElse (cleanFields fields) names standard check = orElse fields names standard check := by
  rw [orElse, orElse, lookup?_cleanFields fields hnames]

end Clean

theorem EntryList.name_mem (list : EntryList) : entryLists.contains list.name = true := by
  cases list <;> rfl

theorem EntryList.check_withoutNulls (list : EntryList) (v : Json) : list.check v.withoutNulls = list.check v :=
  list.check_congr (fields?_withoutNulls v)

/-- A signature and the notes on its entries are the same without nulls. -/
theorem ruleSignature_clean (v : Json) : ruleSignature (cleanSignature v) = ruleSignature v := by
  unfold ruleSignature
  rw [fields?_cleanSignature]
  cases v.fields? with
  | none => rfl
  | some f =>
    have hlist : ∀ (place : String) (list : EntryList), entries place list.check ((cleanFields f).find? list.name) =
        entries place list.check (f.find? list.name) :=
      fun place list => entries_cleanFields f list.name list.name_mem list.check_withoutNulls place
    have hrules : entries _ matchRule ((cleanFields f).find? "rules") = entries _ matchRule (f.find? "rules") :=
      hlist "RuleSignature.rules" .rules
    have hcooccurrences : entries _ cooccurrenceRule ((cleanFields f).find? "cooccur") =
      entries _ cooccurrenceRule (f.find? "cooccur") := hlist "RuleSignature.cooccur" .cooccurrences
    have hproximities : entries _ proximityRule ((cleanFields f).find? "proximity") =
      entries _ proximityRule (f.find? "proximity") := hlist "RuleSignature.proximity" .proximities
    have hnegatives : entries _ negativeRule ((cleanFields f).find? "negatives") =
      entries _ negativeRule (f.find? "negatives") := hlist "RuleSignature.negatives" .negatives
    have htokenizerRules : entries _ tokenizerRule ((cleanFields f).find? "tokenizer_rules") =
      entries _ tokenizerRule (f.find? "tokenizer_rules") := hlist "RuleSignature.tokenizer_rules" .tokenizerRules
    simp only [Option.map_some, hrules, hcooccurrences, hproximities, hnegatives, htokenizerRules, maybe,
      required_cleanFields f "id" rfl, orElse_cleanFields f ["title"] rfl, orElse_cleanFields f ["group"] rfl,
      orElse_cleanFields f ["baseSeverity", "base_severity"] rfl, orElse_cleanFields f ["support_docs"] rfl]

/-- The words of a signature and their weights are not touched. -/
theorem vectorSignature_clean (v : Json) : vectorSignature (cleanSignature v) = vectorSignature v := by
  unfold vectorSignature
  rw [fields?_cleanSignature]
  cases v.fields? with
  | none => rfl
  | some f =>
    have htokens : (cleanFields f).find? "tokens" = f.find? "tokens" := find?_cleanFields_other f rfl
    have hrules : entries _ tokenizerRule ((cleanFields f).find? "token_regex") =
      entries _ tokenizerRule (f.find? "token_regex") :=
        entries_cleanFields f "token_regex" rfl EntryList.tokenizerRules.check_withoutNulls
          "VectorSignature.token_regex"
    simp only [Option.map_some, htokens, hrules, required_cleanFields f "id" rfl, orElse_cleanFields f ["title"] rfl,
      orElse_cleanFields f ["baseSeverity", "base_severity"] rfl, orElse_cleanFields f ["notes"] rfl]

/-! ## Documents -/

theorem ruleSignaturesFrom_clean (place : String) (position : Nat) (items : List Json) :
    ruleSignaturesFrom place position (items.map cleanSignature) = ruleSignaturesFrom place position items := by
  induction items generalizing position with
  | nil => rfl
  | cons v items ih => rw [List.map_cons, ruleSignaturesFrom, ruleSignaturesFrom, ruleSignature_clean, ih]

theorem vectorSignaturesFrom_clean (place : String) (position : Nat) (items : List Json) :
    vectorSignaturesFrom place position (items.map cleanSignature) = vectorSignaturesFrom place position items := by
  induction items generalizing position with
  | nil => rfl
  | cons v items ih =>
    simp only [List.map_cons, vectorSignaturesFrom, vectorSignature_clean, ih]

/-- A member of a document of rules without nulls in its signatures or its entries. -/
def cleanMember (name : String) (v : Json) : Json :=
  if name = "signatures" then v.mapItems cleanSignature
  else if name = "tokenizer_rules" then v.mapItems withoutNulls
  else v

/-- A document of rules without nulls, neither in it nor in its signatures and tokenizer rules. -/
def cleanRules (doc : Json) : Json :=
  (doc.mapMembers cleanMember).withoutNulls

/-- A document of weighted words without nulls in its signatures and the entries of their lists. -/
def cleanVectors (doc : Json) : Json :=
  doc.mapItems cleanSignature

theorem entries_filter {α : Type} (place : String) (check : Json → Validated α) (v : Option Json) :
    entries place check (v.filter fun v => !v.isNull) = entries place check v := by
  cases v with
  | none => rfl
  | some v => cases v <;> rfl

theorem ofDocument_cleanRules_object {members : Entries Json} (hnodup : members.names.Nodup) (source : String) :
    RuleDatabase.ofDocument source (cleanRules (.object members)) =
      RuleDatabase.ofDocument source (.object members) := by
  have hnames : (Entries.names (members.map fun m => (m.1, cleanMember m.1 m.2))).Nodup := by
    have hsame : Entries.names (members.map fun m => (m.1, cleanMember m.1 m.2)) = members.names := by
      simp [Entries.names, Function.comp_def]
    rwa [hsame]
  have hclean : cleanRules (.object members) =
      .object ((members.map fun m => (m.1, cleanMember m.1 m.2)).filter fun m => !m.2.isNull) := rfl
  have hfind : ∀ name, Entries.find? name
      ((members.map fun m => (m.1, cleanMember m.1 m.2)).filter fun m => !m.2.isNull) =
        ((members.find? name).map (cleanMember name)).filter fun v => !v.isNull := by
    intro name
    rw [Entries.find?_filter_of_nodup hnames, Entries.find?_map cleanMember]
  have hrules : entries source tokenizerRule (((members.find? "tokenizer_rules").map
      (cleanMember "tokenizer_rules")).filter fun v => !v.isNull) =
        entries source tokenizerRule (members.find? "tokenizer_rules") := by
    rw [entries_filter]
    exact entries_mapItems EntryList.tokenizerRules.check_withoutNulls source _
  simp only [hclean, RuleDatabase.ofDocument, hfind, hrules]
  cases hsignatures : members.find? "signatures" with
  | none => rfl
  | some v =>
    cases v with
    | list items =>
      have hitems : ((some (Json.list items)).map (cleanMember "signatures")).filter (fun v => !v.isNull) =
          some (.list (items.map cleanSignature)) := rfl
      simp only [hitems, ruleSignaturesFrom_clean]
    | _ => rfl

/-- A document of rules gives the same database and notes without nulls. -/
theorem ofDocument_cleanRules {doc : Json} (hnodup : ∀ members : Entries Json, doc = .object members →
    members.names.Nodup) (source : String) :
    RuleDatabase.ofDocument source (cleanRules doc) = RuleDatabase.ofDocument source doc := by
  cases doc with
  | object members => exact ofDocument_cleanRules_object (hnodup members rfl) source
  | _ => rfl

theorem ofDocument_cleanVectors (doc : Json) (source : String) :
    VectorDatabase.ofDocument source (cleanVectors doc) = VectorDatabase.ofDocument source doc := by
  cases doc with
  | list items =>
    show VectorDatabase.ofDocument source (.list (items.map cleanSignature)) = _
    rw [VectorDatabase.ofDocument, VectorDatabase.ofDocument, vectorSignaturesFrom_clean]
  | _ => rfl

/-! ## Fields that have to be there -/

/-- The fields that the entries of a list have to have. -/
def EntryList.required : EntryList → List String
  | rules | negatives | tokenizerRules => ["rx"]
  | cooccurrences => []
  | proximities => ["a", "b"]

/-- The members of this name are null. -/
def OnlyNull (name : String) (members : Entries Json) : Prop :=
  ∀ m ∈ members, m.1 = name → m.2.isNull = true

/-- The members of other names. -/
def without (name : String) (members : Entries Json) : Entries Json :=
  members.filter fun m => m.1 != name

/-- An entry adds nothing to its list, since a field is missing. -/
def Dropped {α : Type} (x : Validated α) (name : String) : Prop :=
  (∀ place position, (keep place position x).1 = []) ∧ { fault := .missing, path := [name] } ∈ x.errors

section Missing

variable {name : String} {members : Entries Json}

theorem fields?_without (h : OnlyNull name members) :
    fields? (.object (without name members)) = fields? (.object members) := by
  rw [fields?, fields?, without, List.filter_filter]
  refine congrArg some (List.filter_congr fun m hm => ?_)
  by_cases hname : m.1 = name
  · simp [h m hm hname]
  · simp [hname]

theorem find?_of_onlyNull (h : OnlyNull name members) :
    Entries.find? name (members.filter fun m => !m.2.isNull) = none := by
  have hmissing : name ∉ Entries.names (members.filter fun m => !m.2.isNull) := by
    intro hmem
    obtain ⟨m, hm, hname⟩ := List.mem_map.mp hmem
    obtain ⟨hm, hgiven⟩ := List.mem_filter.mp hm
    simp [h m hm hname] at hgiven
  simpa using Entries.isSome_find?.not.mpr hmissing

theorem errors_required {α : Type} {fields : Entries Json} {check : Json → Validated α}
    (h : fields.find? name = none) : (required fields name check).errors = [{ fault := .missing, path := [name] }] := by
  rw [required, h]
  rfl

theorem dropped_of_mem_errors {α : Type} {x : Validated α}
    (h : { fault := .missing, path := [name] } ∈ x.errors) : Dropped x name :=
  ⟨fun place position => by rw [keep_fst, Validated.value?_eq_none h, Option.toList_none], h⟩

/-- An entry is dropped for a null where it has to have a value. -/
theorem EntryList.dropped {list : EntryList} (hname : name ∈ list.required) (h : OnlyNull name members) :
    Dropped (list.check (.object members)) name := by
  have hmissing : ∀ α (check : Json → Validated α), (Fields.required (members.filter fun m => !m.2.isNull) name
      check).errors = [{ fault := .missing, path := [name] }] := fun _ _ => errors_required (find?_of_onlyNull h)
  refine dropped_of_mem_errors ?_
  cases list with
  | rules =>
    obtain rfl := List.mem_singleton.mp hname
    show _ ∈ (matchRule (.object members)).errors
    simp [matchRule, object, fields?, hmissing]
  | cooccurrences => cases hname
  | proximities =>
    show _ ∈ (proximityRule (.object members)).errors
    simp only [EntryList.required, List.mem_cons, List.not_mem_nil, or_false] at hname
    obtain rfl | rfl := hname <;> simp [proximityRule, object, fields?, hmissing]
  | negatives =>
    obtain rfl := List.mem_singleton.mp hname
    show _ ∈ (negativeRule (.object members)).errors
    simp [negativeRule, object, fields?, hmissing]
  | tokenizerRules =>
    obtain rfl := List.mem_singleton.mp hname
    show _ ∈ (tokenizerRule (.object members)).errors
    simp [tokenizerRule, object, fields?, hmissing]

theorem ruleSignature_without (h : OnlyNull name members) :
    ruleSignature (.object (without name members)) = ruleSignature (.object members) := by
  rw [ruleSignature, ruleSignature, fields?_without h]

theorem vectorSignature_without (h : OnlyNull name members) :
    vectorSignature (.object (without name members)) = vectorSignature (.object members) := by
  rw [vectorSignature, vectorSignature, fields?_without h]

theorem ruleSignature_dropped (h : OnlyNull "id" members) : Dropped (ruleSignature (.object members)).1 "id" := by
  refine dropped_of_mem_errors ?_
  simp [ruleSignature, fields?, errors_required (find?_of_onlyNull h)]

theorem vectorSignature_dropped (h : OnlyNull "id" members) {x : Noted (Validated (VectorSignature Float))}
    (hx : vectorSignature (.object members) = .ok x) : Dropped x.1 "id" := by
  refine dropped_of_mem_errors ?_
  simp only [vectorSignature, fields?, bind_eq_ok, pure_eq_ok] at hx
  obtain ⟨tokens, -, rfl⟩ := hx
  simp [errors_required (find?_of_onlyNull h)]

end Missing

/-- A null is as good as a missing member at every level of a document. Without the nulls in a document of rules, in its
signatures and in the entries of their lists, the same database is loaded, with the same notes, and so it is for a
document of weighted words. An entry or a signature in which a value that it has to have is null is checked as if there
were none, and dropped. -/
theorem nulls_as_missing (source : String) :
    (∀ doc, (∀ members : Entries Json, doc = .object members → members.names.Nodup) →
      RuleDatabase.ofDocument source (cleanRules doc) = RuleDatabase.ofDocument source doc) ∧
    (∀ doc, VectorDatabase.ofDocument source (cleanVectors doc) = VectorDatabase.ofDocument source doc) ∧
    (∀ (list : EntryList) (name : String) (members : Entries Json), name ∈ list.required → OnlyNull name members →
      list.check (.object (without name members)) = list.check (.object members) ∧
        Dropped (list.check (.object members)) name) ∧
    (∀ members : Entries Json, OnlyNull "id" members →
      ruleSignature (.object (without "id" members)) = ruleSignature (.object members) ∧
      Dropped (ruleSignature (.object members)).1 "id" ∧
      vectorSignature (.object (without "id" members)) = vectorSignature (.object members) ∧
      ∀ x, vectorSignature (.object members) = .ok x → Dropped x.1 "id") :=
  ⟨fun _ hnodup => ofDocument_cleanRules hnodup source, fun doc => ofDocument_cleanVectors doc source,
    fun list _ _ hname h => ⟨list.check_congr (fields?_without h), list.dropped hname h⟩,
    fun _ h => ⟨ruleSignature_without h, ruleSignature_dropped h, vectorSignature_without h,
      fun _ hx => vectorSignature_dropped h hx⟩⟩

/-- A document with nulls at every level: a severity under its second name only, a rule with the standard weight and one
that has no pattern. -/
def nullDocument : Json :=
  .object [("version", .null), ("tokenizer_rules", .null),
    ("signatures", .list [.object [("id", .text "A"), ("title", .null), ("baseSeverity", .null),
      ("base_severity", .float 0.5), ("negatives", .null),
      ("rules", .list [.object [("rx", .text "eval"), ("w", .null)], .object [("rx", .null), ("w", .int 1)]])]])]

/-- The rule without a pattern is dropped, and nothing else. -/
theorem nullDocument_loaded :
    (∀ members : Entries Json, nullDocument = .object members → members.names.Nodup) ∧
    RuleDatabase.ofDocument "<memory>" (cleanRules nullDocument) = RuleDatabase.ofDocument "<memory>" nullDocument ∧
    (RuleDatabase.ofDocument "<memory>" nullDocument).1.signatures.map
      (fun s => (s.id, s.baseSeverity, s.rules.map fun r => (r.pattern, r.weight))) = [("A", 0.5, [("eval", 1.0)])] ∧
    OnlyNull "rx" [("rx", .null), ("w", .int 1)] ∧
    Dropped (matchRule (.object [("rx", .null), ("w", .int 1)])) "rx" ∧
    OnlyNull "id" [("id", .null)] ∧ Dropped (ruleSignature (.object [("id", .null)])).1 "id" := by
  obtain ⟨hrules, -, hentry, hsignature⟩ := nulls_as_missing "<memory>"
  have hnodup : ∀ members : Entries Json, nullDocument = .object members → members.names.Nodup := by
    intro members h
    obtain rfl := Json.object.inj h
    decide
  have hrx : OnlyNull "rx" [("rx", .null), ("w", .int 1)] := by simp [OnlyNull, isNull]
  have hid : OnlyNull "id" [("id", .null)] := by simp [OnlyNull, isNull]
  exact ⟨hnodup, hrules _ hnodup, by decide +kernel, hrx, (hentry .rules "rx" _ (by decide) hrx).2, hid,
    (hsignature _ hid).2.1⟩

end Document

end RiskGauge
