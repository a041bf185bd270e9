import RiskGauge.Database.Dump
import RiskGauge.Proofs.Database.Document
import RiskGauge.Proofs.Failure

/-!
# Databases that are written and read again

A database is written under names that differ in part from those it was read under, and what is not set is written as
null. Reading it again gives the same database, without a note on an entry left out:

* `Document.ReadsBack`: what is written of a value passes its check and is the value again; so it is for every kind of
  entry, and for lists of such entries (`ReadsBack.entries`);
* `Document.ruleSignature_dump`, `Document.vectorSignature_dump`: the same for signatures;
* `RuleDatabase.ofDocument_toDocument`, `VectorDatabase.ofDocument_toDocument`: the same for databases.
-/

namespace RiskGauge

namespace Document

open Json Json.Fields

/-! ## Entries -/

section ReadsBack

variable {α : Type} {check : Json → Validated α} {write : α → Json}

/-- What is written of a value passes the check and is the value again. -/
def ReadsBack (check : Json → Validated α) (write : α → Json) : Prop :=
  ∀ a, check (write a) = .valid a

theorem ReadsBack.entriesFrom (h : ReadsBack check write) (place : String) (position : Nat) (xs : List α) :
    entriesFrom place check position (xs.map write) = (xs, []) := by
  induction xs generalizing position with
  | nil => rfl
  | cons x xs ih => simp [Document.entriesFrom, h x, keep, ih]

/-- All entries of a list that was written are kept. -/
theorem ReadsBack.entries (h : ReadsBack check write) (place : String) (xs : List α) :
    entries place check (some (.list (xs.map write))) = (xs, []) :=
  h.entriesFrom place 0 xs

end ReadsBack

theorem all_asText (texts : List String) (n : Nat) :
    Validated.all (((texts.map Json.text).zipIdx n).map fun (v, i) => (asText v).inside (toString i)) =
      .valid texts := by
  induction texts generalizing n with
  | nil => rfl
  | cons s texts ih =>
    simp only [List.map_cons, List.zipIdx_cons, Validated.all, ih]
    rfl

-- A field that may be missing is written as null or as its value, and is read accordingly: hence the cases.

theorem readsBack_tokenizerRule : ReadsBack tokenizerRule Dump.tokenizerRule := by
  rintro ⟨name, pattern, weight⟩
  cases name <;> rfl

theorem readsBack_matchRule : ReadsBack matchRule Dump.matchRule := by
  rintro ⟨pattern, weight, note, token, support, rarity⟩
  cases note <;> cases token <;> cases support <;> rfl

theorem readsBack_cooccurrenceRule : ReadsBack cooccurrenceRule Dump.cooccurrenceRule := by
  rintro ⟨patterns, bonus⟩
  have htexts : asTexts (.list (patterns.map .text)) = .valid patterns := all_asText patterns 0
  calc cooccurrenceRule (Dump.cooccurrenceRule { patterns, bonus })
      = CooccurrenceRule.mk <$> (asTexts (.list (patterns.map .text))).inside "patterns" <*> .valid bonus := rfl
    _ = .valid { patterns, bonus } := by
      rw [htexts]
      rfl

theorem readsBack_proximityRule : ReadsBack proximityRule Dump.proximityRule := by
  rintro ⟨first, second, lines, bonus⟩
  cases lines <;> rfl

theorem readsBack_negativeRule : ReadsBack negativeRule Dump.negativeRule := by
  rintro ⟨pattern, penalty, note⟩
  cases note <;> rfl

/-! ## Signatures -/

/-- A signature whose fields are read without a note is read without one. -/
theorem ruleSignature_of_fields {v : Json} {f : Entries Json} (s : RuleSignature Float) (hv : v.fields? = some f)
    (hrules : entries "RuleSignature.rules" matchRule (f.find? "rules") = (s.rules, []))
    (hcooccurrences : entries "RuleSignature.cooccur" cooccurrenceRule (f.find? "cooccur") = (s.cooccurrences, []))
    (hproximities : entries "RuleSignature.proximity" proximityRule (f.find? "proximity") = (s.proximities, []))
    (hnegatives : entries "RuleSignature.negatives" negativeRule (f.find? "negatives") = (s.negatives, []))
    (htokenizerRules : entries "RuleSignature.tokenizer_rules" tokenizerRule (f.find? "tokenizer_rules") =
      (s.tokenizerRules, []))
    (hid : required f "id" asText = .valid s.id) (htitle : orElse f ["title"] "" asText = .valid s.title)
    (hbase : orElse f ["baseSeverity", "base_severity"] standardSeverity asFloat = .valid s.baseSeverity)
    (hgroup : maybe f "group" asText = .valid s.group)
    (hdocs : orElse f ["support_docs"] 0.0 asFloat = .valid s.supportDocs) :
    ruleSignature v = (.valid s, []) := by
  simp only [ruleSignature, hv, hrules, hcooccurrences, hproximities, hnegatives, htokenizerRules, hid, htitle, hbase,
    hgroup, hdocs]
  rfl

theorem ruleSignature_dump (s : RuleSignature Float) : ruleSignature (Dump.ruleSignature s) = (.valid s, []) := by
  have hrules := readsBack_matchRule.entries "RuleSignature.rules" s.rules
  have hcooccurrences := readsBack_cooccurrenceRule.entries "RuleSignature.cooccur" s.cooccurrences
  have hproximities := readsBack_proximityRule.entries "RuleSignature.proximity" s.proximities
  have hnegatives := readsBack_negativeRule.entries "RuleSignature.negatives" s.negatives
  have htokenizerRules := readsBack_tokenizerRule.entries "RuleSignature.tokenizer_rules" s.tokenizerRules
  obtain ⟨id, title, baseSeverity, rules, cooccurrences, proximities, negatives, group, supportDocs,
    tokenizerRules⟩ := s
  cases group <;>
    exact ruleSignature_of_fields _ rfl hrules hcooccurrences hproximities hnegatives htokenizerRules
      rfl rfl rfl rfl rfl

theorem ruleSignaturesFrom_dump (place : String) (position : Nat) (signatures : List (RuleSignature Float)) :
    ruleSignaturesFrom place position (signatures.map Dump.ruleSignature) = (signatures, []) := by
  induction signatures generalizing position with
  | nil => rfl
  | cons s signatures ih => simp [ruleSignaturesFrom, ruleSignature_dump, keep, ih]

theorem tokens_dump (words : Entries Float) :
    tokens (some (.object (words.map fun (token, w) => (token, .float w)))) = .ok words := by
  simp only [tokens]
  induction words with
  | nil => rfl
  | cons word words ih =>
    rw [List.map_cons, List.mapM_cons, ih]
    rfl

theorem vectorSignature_dump (s : VectorSignature Float) :
    vectorSignature (Dump.vectorSignature s) = .ok (.valid s, []) := by
  have hwords := tokens_dump s.tokens
  have hrules := readsBack_tokenizerRule.entries "VectorSignature.token_regex" s.tokenRules
  simp only [vectorSignature, fields?, Dump.vectorSignature, isNull, Bool.not_false, 
      List.filter, Entries.find?, String.reduceEq, if_true, if_false, hwords, hrules]
  rfl

theorem vectorSignaturesFrom_dump (place : String) (position : Nat) (signatures : List (VectorSignature Float)) :
    vectorSignaturesFrom place position (signatures.map Dump.vectorSignature) = .ok (signatures, []) := by
  induction signatures generalizing position with
  | nil => rfl
  | cons s signatures ih =>
    rw [List.map_cons, vectorSignaturesFrom, vectorSignature_dump, ih]
    rfl

end Document

/-! ## Databases -/

/-- A rule database that is written is read as it is, whatever it holds, and no entry of it is left out. -/
theorem RuleDatabase.ofDocument_toDocument (source : String) (db : RuleDatabase Float) :
    ofDocument source db.toDocument = ({ db with source := some source }, []) := by
  have hsignatures := Document.ruleSignaturesFrom_dump source 0 db.signatures
  have hrules := Document.readsBack_tokenizerRule.entries source db.tokenizerRules
  simp [ofDocument, toDocument, Entries.find?, hsignatures, hrules]

/-- A vector database that is written is read as it is, and no entry of it is left out. -/
theorem VectorDatabase.ofDocument_toDocument (source : String) (db : VectorDatabase Float) :
    ofDocument source db.toDocument = .ok ({ db with source := some source }, []) := by
  rw [toDocument, ofDocument, Document.vectorSignaturesFrom_dump]
  rfl

theorem RuleDatabase.source_ofDocument (source : String) (doc : Json) :
    (ofDocument source doc).1.source = some source := by
  cases doc <;> rfl

theorem VectorDatabase.source_ofDocument {source : String} {doc : Json} {db : VectorDatabase Float}
    {notes : List Skipped} (h : ofDocument source doc = .ok (db, notes)) : db.source = some source := by
  cases doc with
  | list items =>
    obtain ⟨r, -, hr⟩ := bind_eq_ok.mp h
    cases hr
    rfl
  | _ =>
    cases h
    rfl

/-- Loading, writing and loading again is loading. Reading is a left inverse of writing, for both kinds of databases
and whatever they hold; so a database that was loaded from a document, with whatever was left out, filled in or
converted on the way, comes back unchanged, and nothing is left out any more. -/
theorem loaded_databases_reload (source : String) :
    (∀ db : RuleDatabase Float,
      RuleDatabase.ofDocument source db.toDocument = ({ db with source := some source }, [])) ∧
    (∀ db : VectorDatabase Float,
      VectorDatabase.ofDocument source db.toDocument = .ok ({ db with source := some source }, [])) ∧
    (∀ doc : Json, RuleDatabase.ofDocument source (RuleDatabase.ofDocument source doc).1.toDocument =
      ((RuleDatabase.ofDocument source doc).1, [])) ∧
    (∀ (doc : Json) (db : VectorDatabase Float) (notes : List Skipped),
      VectorDatabase.ofDocument source doc = .ok (db, notes) →
        VectorDatabase.ofDocument source db.toDocument = .ok (db, [])) := by
  refine ⟨RuleDatabase.ofDocument_toDocument source, VectorDatabase.ofDocument_toDocument source, fun doc => ?_,
    fun doc db notes h => ?_⟩
  · rw [RuleDatabase.ofDocument_toDocument, ← RuleDatabase.source_ofDocument source doc]
  · rw [VectorDatabase.ofDocument_toDocument, ← VectorDatabase.source_ofDocument h]

/-- An entry with a weight that is no number and a severity under its first name, and an entry without an id. -/
def wordsDocument : Json :=
  .list [.object [("id", .text "A"), ("baseSeverity", .bool true), ("notes", .null),
      ("tokens", .object [("eval", .text "many"), ("exec", .float 2.5)])],
    .object [("title", .text "no id")]]

/-- The document is loaded with a note on the second entry, and is loaded again without one. -/
theorem wordsDocument_reload : ∃ db, VectorDatabase.ofDocument "<memory>" wordsDocument =
      .ok (db, [{ position := 1, place := "<memory>", faults := 1 }]) ∧
    db.signatures.map (fun s => (s.id, s.baseSeverity, s.tokens)) = [("A", 1, [("eval", 1.0), ("exec", 2.5)])] ∧
    VectorDatabase.ofDocument "<memory>" db.toDocument = .ok (db, []) := by
  refine ⟨_, rfl, rfl, ?_⟩
  exact (loaded_databases_reload "<memory>").2.2.2 wordsDocument _ _ rfl

end RiskGauge
