import Mathlib.Data.List.Basic
import RiskGauge.Database.Document
import RiskGauge.Proofs.Entries
import RiskGauge.Proofs.Field.Validated

/-!
# What a document of rules gives

The entries of a document are checked one by one, those of the lists inside of a signature before the signature.
Here the result is said without positions and notes:

* `Document.validEntries`: the entries of a list that pass their check;
* `RuleDatabase.ofDocument_fst`: a database holds the valid entries of its lists;
* `Document.of_ruleSignature`, `Document.ruleSignature_congr`: a signature holds the valid entries of its lists, and
  so it is the same for lists with the same valid entries;
* `Document.EntryPlace`: the lists into which entries can be put, at the two levels of a document;
* `RuleDatabase.ofDocument_insert`: an entry that fails its check changes nothing.
-/

namespace RiskGauge

namespace Document

/-! ## Valid entries -/

section Valid

variable {α : Type}

/-- The entries that pass a check, in their order; none of a value that is no list. -/
def validEntries (check : Json → Validated α) : Option Json → List α
  | some (.list items) => items.filterMap fun v => (check v).value?
  | _ => []

theorem keep_fst (place : String) (position : Nat) (x : Validated α) :
    (keep place position x).1 = x.value?.toList := by
  cases x <;> rfl

theorem entriesFrom_fst (place : String) (check : Json → Validated α) (position : Nat) (items : List Json) :
    (entriesFrom place check position items).1 = items.filterMap fun v => (check v).value? := by
  induction items generalizing position with
  | nil => rfl
  | cons v items ih =>
    simp only [entriesFrom, keep_fst, ih, List.filterMap_cons]
    cases (check v).value? <;> rfl

theorem entries_fst (place : String) (check : Json → Validated α) (v : Option Json) :
    (entries place check v).1 = validEntries check v := by
  unfold entries validEntries
  split <;> simp [entriesFrom_fst]

theorem ruleSignaturesFrom_fst (place : String) (position : Nat) (items : List Json) :
    (ruleSignaturesFrom place position items).1 = items.filterMap fun v => (ruleSignature v).1.value? := by
  induction items generalizing position with
  | nil => rfl
  | cons v items ih =>
    simp only [ruleSignaturesFrom, keep_fst, ih, List.filterMap_cons]
    cases (ruleSignature v).1.value? <;> rfl

end Valid

/-! ## The lists of a signature -/

/-- The lists of entries that a signature has. -/
inductive EntryList where
  | rules
  | cooccurrences
  | proximities
  | negatives
  | tokenizerRules
deriving DecidableEq, Repr

namespace EntryList

/-- The name of the list in a document. -/
def name : EntryList → String
  | rules => "rules"
  | cooccurrences => "cooccur"
  | proximities => "proximity"
  | negatives => "negatives"
  | tokenizerRules => "tokenizer_rules"

/-- What the entries of the list are. -/
def Entry : EntryList → Type
  | rules => MatchRule Float
  | cooccurrences => CooccurrenceRule Float
  | proximities => ProximityRule Float
  | negatives => NegativeRule Float
  | tokenizerRules => TokenizerRule Float

/-- The check that the entries have to pass. -/
def check : (list : EntryList) → Json → Validated list.Entry
  | rules => matchRule
  | cooccurrences => cooccurrenceRule
  | proximities => proximityRule
  | negatives => negativeRule
  | tokenizerRules => tokenizerRule

/-- The list in a signature. -/
def of (s : RuleSignature Float) : (list : EntryList) → List list.Entry
  | rules => s.rules
  | cooccurrences => s.cooccurrences
  | proximities => s.proximities
  | negatives => s.negatives
  | tokenizerRules => s.tokenizerRules

theorem name_injective : Function.Injective name := by
  intro a b h
  cases a <;> cases b <;> simp [name] at h ⊢

end EntryList

section Signature

open Json Json.Fields

variable {f g : Entries Json}

/-- A signature depends on the valid entries of its lists, and on its other fields. -/
theorem ruleSignature_congr {v w : Json} (hv : v.fields? = some f) (hw : w.fields? = some g)
    (hlists : ∀ list : EntryList,
      validEntries list.check (f.find? list.name) = validEntries list.check (g.find? list.name))
    (hothers : ∀ name, (∀ list : EntryList, list.name ≠ name) → f.find? name = g.find? name) :
    (ruleSignature v).1 = (ruleSignature w).1 := by
  have hrules : validEntries matchRule (f.find? "rules") = validEntries matchRule (g.find? "rules") := hlists .rules
  have hcooccurrences : validEntries cooccurrenceRule (f.find? "cooccur") =
    validEntries cooccurrenceRule (g.find? "cooccur") := hlists .cooccurrences
  have hproximities : validEntries proximityRule (f.find? "proximity") =
    validEntries proximityRule (g.find? "proximity") := hlists .proximities
  have hnegatives : validEntries negativeRule (f.find? "negatives") =
    validEntries negativeRule (g.find? "negatives") := hlists .negatives
  have htokenizerRules : validEntries tokenizerRule (f.find? "tokenizer_rules") =
    validEntries tokenizerRule (g.find? "tokenizer_rules") := hlists .tokenizerRules
  have hother : ∀ name ∈ ["id", "title", "baseSeverity", "base_severity", "group", "support_docs"],
      f.find? name = g.find? name := by
    intro name hname
    refine hothers name fun list => ?_
    revert name
    cases list <;> decide
  simp only [List.forall_mem_cons, List.not_mem_nil, false_implies, implies_true, and_true] at hother
  obtain ⟨hid, htitle, hbase, hbase', hgroup, hdocs⟩ := hother
  simp only [ruleSignature, hv, hw, entries_fst, hrules, hcooccurrences, hproximities, hnegatives, htokenizerRules,
    maybe, required, orElse, lookup?, hid, htitle, hbase, hbase', hgroup, hdocs]

/-- The lists of a signature are the valid entries of the lists in its document. -/
theorem of_ruleSignature {v : Json} {s : RuleSignature Float} (hv : v.fields? = some f)
    (hs : (ruleSignature v).1.value? = some s) (list : EntryList) :
    list.of s = validEntries list.check (f.find? list.name) := by
  simp only [ruleSignature, hv, Validated.value?_seq, Validated.value?_map, Option.bind_eq_some_iff,
    Option.map_eq_some_iff, entries_fst] at hs
  obtain ⟨_, ⟨_, ⟨_, ⟨_, ⟨_, -, rfl⟩, _, -, rfl⟩, _, -, rfl⟩, _, -, rfl⟩, _, -, rfl⟩ := hs
  cases list <;> rfl

end Signature

end Document

theorem RuleDatabase.ofDocument_fst (source : String) (members : Entries Json) :
    (ofDocument source (.object members)).1 =
      { signatures := Document.validEntries (fun v => (Document.ruleSignature v).1) (members.find? "signatures")
        tokenizerRules := Document.validEntries Document.tokenizerRule (members.find? "tokenizer_rules")
        source := some source } := by
  simp only [ofDocument, Document.entries_fst]
  cases members.find? "signatures" with
  | none => rfl
  | some v => cases v <;> simp [Document.validEntries, Document.ruleSignaturesFrom_fst]

/-! ## Putting in an entry -/

namespace Json

/-- The list with an entry put in at a position; nothing if there is no such position. -/
def insertItem? (v : Json) (position : Nat) (entry : Json) : Option Json :=
  match v with
  | list items => if position ≤ items.length then some (list (items.insertIdx position entry)) else none
  | _ => none

/-- The list with one of its items changed. -/
def changeItem? (v : Json) (position : Nat) (change : Json → Option Json) : Option Json :=
  match v with
  | list items => do
    let item ← items[position]?
    return list (items.set position (← change item))
  | _ => none

/-- The object with one of its members changed. -/
def changeMember? (v : Json) (name : String) (change : Json → Option Json) : Option Json :=
  match v with
  | object members => do
    let member ← Entries.find? name members
    return object (Entries.assign name (← change member) members)
  | _ => none

section Change

variable {v w : Json} {name : String} {position : Nat} {change : Json → Option Json}

theorem insertItem?_eq_some {entry : Json} : v.insertItem? position entry = some w ↔
    ∃ items, v = list items ∧ position ≤ items.length ∧ list (items.insertIdx position entry) = w := by
  cases v <;> simp [insertItem?]

theorem changeItem?_eq_some : v.changeItem? position change = some w ↔
    ∃ items item item', v = list items ∧ items[position]? = some item ∧ change item = some item' ∧
      list (items.set position item') = w := by
  cases v <;> simp [changeItem?, Option.bind_eq_some_iff]

theorem changeMember?_eq_some : v.changeMember? name change = some w ↔
    ∃ members member member', v = object members ∧ Entries.find? name members = some member ∧
      change member = some member' ∧ object (Entries.assign name member' members) = w := by
  cases v <;> simp [changeMember?, Option.bind_eq_some_iff]

end Change

end Json

namespace Document

section Insert

variable {α : Type} {check : Json → Validated α}

theorem validEntries_insertItem {v w entry : Json} {position : Nat} (hentry : (check entry).value? = none)
    (h : v.insertItem? position entry = some w) : validEntries check (some w) = validEntries check (some v) := by
  obtain ⟨items, rfl, -, rfl⟩ := Json.insertItem?_eq_some.mp h
  clear h
  simp only [validEntries]
  induction items generalizing position with
  | nil => cases position <;> simp [hentry]
  | cons v items ih =>
    cases position with
    | zero => simp [hentry]
    | succ position => simp [List.filterMap_cons, ih]

theorem validEntries_changeItem {v w : Json} {position : Nat} {change : Json → Option Json}
    (hchange : ∀ item item', change item = some item' → (check item').value? = (check item).value?)
    (h : v.changeItem? position change = some w) : validEntries check (some w) = validEntries check (some v) := by
  obtain ⟨items, item, item', rfl, hitem, hitem', rfl⟩ := Json.changeItem?_eq_some.mp h
  have hsame := hchange item item' hitem'
  clear h
  simp only [validEntries]
  induction items generalizing position with
  | nil => rfl
  | cons v items ih =>
    cases position with
    | zero =>
      obtain rfl : v = item := by simpa using hitem
      simp [List.filterMap_cons, hsame]
    | succ position => simp [List.filterMap_cons, ih (by simpa using hitem)]

/-- Putting a value for another one changes no valid entries, if it has the same ones where it is looked for. -/
theorem validEntries_assign {members : Entries Json} {name key : String} {old new : Json}
    (hold : members.find? name = some old)
    (h : name = key → validEntries check (some new) = validEntries check (some old)) :
    validEntries check (Entries.find? key (Entries.assign name new members)) =
      validEntries check (members.find? key) := by
  rw [Entries.find?_assign]
  split
  · rename_i hname
    subst hname
    rw [hold, h rfl]
  · rfl

end Insert

/-- An entry that fails its check changes nothing in the signature that it is put in. -/
theorem ruleSignature_insert {v w entry : Json} {list : EntryList} {position : Nat}
    (hentry : (list.check entry).value? = none)
    (h : v.changeMember? list.name (·.insertItem? position entry) = some w) :
    (ruleSignature w).1 = (ruleSignature v).1 := by
  obtain ⟨members, old, new, rfl, hold, hnew, rfl⟩ := Json.changeMember?_eq_some.mp h
  obtain ⟨items, rfl, -, rfl⟩ := Json.insertItem?_eq_some.mp hnew
  have hfields : Json.fields? (.object (Entries.assign list.name (.list (items.insertIdx position entry)) members)) =
      some (Entries.assign list.name (.list (items.insertIdx position entry))
        (members.filter fun m => !m.2.isNull)) :=
    congrArg some (Entries.filter_assign hold rfl rfl)
  have hfind : Entries.find? list.name (members.filter fun m => !m.2.isNull) = some (.list items) :=
    Entries.find?_filter hold rfl
  refine ruleSignature_congr hfields rfl (fun other => validEntries_assign hfind fun hname => ?_) fun name hname => ?_
  · obtain rfl := EntryList.name_injective hname
    exact validEntries_insertItem hentry hnew
  · rw [Entries.find?_assign, if_neg (hname list)]

/-- A list of entries in the document of a rule database. -/
inductive EntryPlace where
  | signatures
  | tokenizerRules
  /-- A list inside of the signature with this number. -/
  | within (signature : Nat) (list : EntryList)
deriving DecidableEq, Repr

namespace EntryPlace

/-- The document with an entry put in at a position of the list; nothing if it has no such list or position. -/
def insert? (doc : Json) (position : Nat) (entry : Json) : EntryPlace → Option Json
  | signatures => doc.changeMember? "signatures" (·.insertItem? position entry)
  | tokenizerRules => doc.changeMember? "tokenizer_rules" (·.insertItem? position entry)
  | within signature list => doc.changeMember? "signatures" (·.changeItem? signature
      (·.changeMember? list.name (·.insertItem? position entry)))

/-- The entry fails the check of the list. -/
def refuses (entry : Json) : EntryPlace → Bool
  | signatures => (ruleSignature entry).1.value?.isNone
  | tokenizerRules => (tokenizerRule entry).value?.isNone
  | within _ list => (list.check entry).value?.isNone

end EntryPlace

end Document

namespace RuleDatabase

open Document

variable {source : String} {entry : Json} {position : Nat}

/-- A change of a member changes nothing, if the valid entries stay the same. -/
theorem ofDocument_changeMember {doc doc' : Json} {name : String} {change : Json → Option Json}
    (h : doc.changeMember? name change = some doc')
    (hsignatures : name = "signatures" → ∀ old new, change old = some new →
      validEntries (fun v => (ruleSignature v).1) (some new) = validEntries (fun v => (ruleSignature v).1) (some old))
    (hrules : name = "tokenizer_rules" → ∀ old new, change old = some new →
      validEntries tokenizerRule (some new) = validEntries tokenizerRule (some old)) :
    (ofDocument source doc').1 = (ofDocument source doc).1 := by
  obtain ⟨members, old, new, rfl, hold, hnew, rfl⟩ := Json.changeMember?_eq_some.mp h
  rw [ofDocument_fst, ofDocument_fst, validEntries_assign hold fun hname => hsignatures hname old new hnew,
    validEntries_assign hold fun hname => hrules hname old new hnew]

theorem ofDocument_insert {doc doc' : Json} {place : EntryPlace} (hentry : place.refuses entry = true)
    (h : place.insert? doc position entry = some doc') :
    (ofDocument source doc').1 = (ofDocument source doc).1 := by
  cases place with
  | signatures =>
    refine ofDocument_changeMember h (fun _ old new => ?_) (by simp)
    exact validEntries_insertItem (Option.isNone_iff_eq_none.mp hentry)
  | tokenizerRules =>
    refine ofDocument_changeMember h (by simp) fun _ old new => ?_
    exact validEntries_insertItem (Option.isNone_iff_eq_none.mp hentry)
  | within signature list =>
    refine ofDocument_changeMember h (fun _ old new => validEntries_changeItem fun item item' hitem => ?_) (by simp)
    exact congrArg Validated.value? (ruleSignature_insert (Option.isNone_iff_eq_none.mp hentry) hitem)

/-- A document with a list of signatures, and other members. -/
def documentOf (members : Entries Json) (signatures : List Json) : Json :=
  .object (Entries.assign "signatures" (.list signatures) members)

theorem signatures_ofDocument (source : String) (members : Entries Json) (items : List Json) :
    (ofDocument source (documentOf members items)).1.signatures =
      items.filterMap fun v => (ruleSignature v).1.value? := by
  simp [documentOf, ofDocument_fst, Entries.find?_assign, validEntries]

/-- Malformed entries of a document are left out one by one. An entry that fails its check, put into any list of a
document at any position, leaves the database as it is. The signatures of two lists are loaded as those of one and
then those of the other; they are the valid signatures of the document, and the lists inside of each are the valid
entries of its lists. -/
theorem malformed_entries_isolated (source : String) :
    (∀ (place : EntryPlace) (position : Nat) (entry doc doc' : Json), place.refuses entry = true →
      place.insert? doc position entry = some doc' → (ofDocument source doc').1 = (ofDocument source doc).1) ∧
    (∀ (members : Entries Json) (xs ys : List Json),
      (ofDocument source (documentOf members (xs ++ ys))).1.signatures =
        (ofDocument source (documentOf members xs)).1.signatures ++
          (ofDocument source (documentOf members ys)).1.signatures) ∧
    (∀ (members : Entries Json) (items : List Json),
      (ofDocument source (documentOf members items)).1.signatures =
        items.filterMap fun v => (ruleSignature v).1.value?) ∧
    (∀ (v : Json) (f : Entries Json) (s : RuleSignature Float), v.fields? = some f →
      (ruleSignature v).1.value? = some s → ∀ list : EntryList,
        list.of s = validEntries list.check (f.find? list.name)) := by
  refine ⟨fun place position entry doc doc' => ofDocument_insert, fun members xs ys => ?_,
    signatures_ofDocument source, fun v f s => of_ruleSignature⟩
  simp only [signatures_ofDocument, List.filterMap_append]

/-- Two signatures, the second one with a rule that has no pattern, and a tokenizer rule that is no object. -/
def mixedDocument : Json :=
  documentOf [("tokenizer_rules", .list [.text "eval", .object [("rx", .text "exec")]])]
    [.object [("id", .text "A"), ("rules", .null)],
      .object [("id", .text "B"),
        ("rules", .list [.object [("rx", .text "eval"), ("w", .int 2)], .object [("w", .int 1)]]),
        ("cooccur", .list [.object [("all", .text "eval")], .object [("patterns", .list [.text "a", .text "b"])]])]]

/-- A signature without an id, a rule with a weight that is no number, and a pair of patterns that is no list are all
refused, and leave what the document holds: two signatures, and one valid entry in each list. -/
theorem mixedDocument_kept :
    (∃ doc, EntryPlace.insert? mixedDocument 1 (.object [("title", .text "no id")]) .signatures = some doc ∧
      (ofDocument "<memory>" doc).1 = (ofDocument "<memory>" mixedDocument).1) ∧
    (∃ doc, EntryPlace.insert? mixedDocument 0 (.object [("rx", .text "eval"), ("w", .text "heavy")])
        (.within 1 .rules) = some doc ∧
      (ofDocument "<memory>" doc).1 = (ofDocument "<memory>" mixedDocument).1) ∧
    (ofDocument "<memory>" mixedDocument).1.signatures.map
      (fun s => (s.id, s.rules.map (·.pattern), s.cooccurrences.map (·.patterns))) =
        [("A", [], []), ("B", ["eval"], [["a", "b"]])] := by
  obtain ⟨hinsert, -, -, -⟩ := malformed_entries_isolated "<memory>"
  refine ⟨?_, ?_, by decide +kernel⟩
  · exact ⟨_, rfl, hinsert .signatures 1 _ mixedDocument _ (by decide +kernel) rfl⟩
  · exact ⟨_, rfl, hinsert (.within 1 .rules) 0 _ mixedDocument _ (by decide +kernel) rfl⟩

end RuleDatabase

end RiskGauge
