import RiskGauge.Database.Basic
import RiskGauge.Json.Fields
import RiskGauge.Scalar

/-!
# Databases from documents

Every entry of a document is checked for itself; one that is malformed is left out and noted. Weights of
words that are not numbers count as one.
-/

namespace RiskGauge

/-- A note on an entry that was left out. -/
structure Skipped where
  position : Nat
  place : String
  faults : Nat
deriving DecidableEq, Repr

/-- The note in words. -/
def Skipped.message (s : Skipped) : String :=
  s!"Skipping malformed entry #{s.position} in {s.place}: {s.faults} error(s)"

/-- A value that was read, and the notes on the way. -/
abbrev Noted (α : Type) := α × List Skipped

namespace Document

variable {α : Type}

/-- What an entry at a position adds to a list: its value, or a note that it was left out. -/
def keep (place : String) (position : Nat) : Validated α → List α × List Skipped
  | .valid a => ([a], [])
  | .invalid errors => ([], [{ position, place, faults := errors.length }])

/-- The valid entries of a list from a position on. -/
def entriesFrom (place : String) (check : Json → Validated α) : Nat → List Json → Noted (List α)
  | _, [] => ([], [])
  | position, item :: rest =>
    let (kept, note) := keep place position (check item)
    let (others, notes) := entriesFrom place check (position + 1) rest
    (kept ++ others, note ++ notes)

/-- The valid entries of a list; none of a value that is no list. -/
def entries (place : String) (check : Json → Validated α) : Option Json → Noted (List α)
  | some (.list items) => entriesFrom place check 0 items
  | _ => ([], [])

/-- The check of an object by its fields. -/
def object (check : Entries Json → Validated α) (v : Json) : Validated α :=
  match v.fields? with
  | some fields => check fields
  | none => .fail .notObject

open Json Json.Fields

/-- A tokenizer rule. -/
def tokenizerRule : Json → Validated (TokenizerRule Float) :=
  object fun f => TokenizerRule.mk <$> maybe f "name" asText <*> required f "rx" asText
    <*> orElse f ["w"] 1.0 asFloat

/-- A rule with a pattern that speaks for a vulnerability. -/
def matchRule : Json → Validated (MatchRule Float) :=
  object fun f => MatchRule.mk <$> required f "rx" asText <*> orElse f ["w"] 1.0 asFloat
    <*> maybe f "note" asText <*> maybe f "token" asText <*> maybe f "support" asFloat
    <*> orElse f ["idf"] 1.0 asFloat

/-- A rule with patterns that speak for a vulnerability together. -/
def cooccurrenceRule : Json → Validated (CooccurrenceRule Float) :=
  object fun f => CooccurrenceRule.mk <$> orElse f ["all", "patterns"] [] asTexts
    <*> orElse f ["bonus"] 0.0 asFloat

/-- A rule with patterns on lines close to each other. -/
def proximityRule : Json → Validated (ProximityRule Float) :=
  object fun f => ProximityRule.mk <$> required f "a" asText <*> required f "b" asText
    <*> maybe f "lines" asInteger <*> orElse f ["bonus"] 0.0 asFloat

/-- A rule with a pattern that speaks against a vulnerability. -/
def negativeRule : Json → Validated (NegativeRule Float) :=
  object fun f => NegativeRule.mk <$> required f "rx" asText <*> orElse f ["penalty"] 0.0 asFloat
    <*> maybe f "note" asText

/-- The severity of a vulnerability for which none is given. -/
def standardSeverity : Float := 0.7

/-- A vulnerability described by patterns, with the notes on its entries. -/
def ruleSignature (v : Json) : Noted (Validated (RuleSignature Float)) :=
  match v.fields? with
  | none => (.fail .notObject, [])
  | some f =>
    let (rules, n₁) := entries "RuleSignature.rules" matchRule (f.find? "rules")
    let (cooccurrences, n₂) := entries "RuleSignature.cooccur" cooccurrenceRule (f.find? "cooccur")
    let (proximities, n₃) := entries "RuleSignature.proximity" proximityRule (f.find? "proximity")
    let (negatives, n₄) := entries "RuleSignature.negatives" negativeRule (f.find? "negatives")
    let (tokenizerRules, n₅) := entries "RuleSignature.tokenizer_rules" tokenizerRule (f.find? "tokenizer_rules")
    let signature :=
      (fun id title baseSeverity group supportDocs =>
        { id, title, baseSeverity, rules, cooccurrences, proximities, negatives, group, supportDocs,
          tokenizerRules : RuleSignature Float })
      <$> required f "id" asText <*> orElse f ["title"] "" asText
      <*> orElse f ["baseSeverity", "base_severity"] standardSeverity asFloat
      <*> maybe f "group" asText <*> orElse f ["support_docs"] 0.0 asFloat
    (signature, n₁ ++ n₂ ++ n₃ ++ n₄ ++ n₅)

/-- The weight of a word; one if none is given as a number. -/
def tokenWeight : Json → Except NumericError Float
  | .int n => Scalar.ofInt? n
  | .float x => .ok x
  | _ => .ok 1.0

/-- The words of a vulnerability with their weights. -/
def tokens : Option Json → Except NumericError (Entries Float)
  | some (.object members) => members.mapM fun (token, v) => do return (token, ← tokenWeight v)
  | _ => .ok []

/-- A vulnerability described by weighted words, with the notes on its entries. A weight too large for a
number cannot be read at all. -/
def vectorSignature (v : Json) : Except NumericError (Noted (Validated (VectorSignature Float))) :=
  match v.fields? with
  | none => .ok (.fail .notObject, [])
  | some f => do
    let tokens ← tokens (f.find? "tokens")
    let (tokenRules, notes) := entries "VectorSignature.token_regex" tokenizerRule (f.find? "token_regex")
    let signature :=
      (fun id title baseSeverity comment =>
        { id, title, tokens, baseSeverity, notes := comment, tokenRules : VectorSignature Float })
      <$> required f "id" asText <*> orElse f ["title"] "" asText
      <*> orElse f ["baseSeverity", "base_severity"] standardSeverity asFloat
      <*> orElse f ["notes"] "" asText
    return (signature, notes)

/-- The valid signatures of a list from a position on. The notes on the entries of a signature come before
the note on the signature itself. -/
def ruleSignaturesFrom (place : String) : Nat → List Json → Noted (List (RuleSignature Float))
  | _, [] => ([], [])
  | position, item :: rest =>
    let (checked, inner) := ruleSignature item
    let (kept, note) := keep place position checked
    let (others, notes) := ruleSignaturesFrom place (position + 1) rest
    (kept ++ others, inner ++ note ++ notes)

/-- The valid signatures of a list from a position on. -/
def vectorSignaturesFrom (place : String) : Nat → List Json →
    Except NumericError (Noted (List (VectorSignature Float)))
  | _, [] => .ok ([], [])
  | position, item :: rest => do
    let (checked, inner) ← vectorSignature item
    let (kept, note) := keep place position checked
    let (others, notes) ← vectorSignaturesFrom place (position + 1) rest
    return (kept ++ others, inner ++ note ++ notes)

end Document

/-- The rule database of a document. A document that is no object gives an empty one. -/
def RuleDatabase.ofDocument (source : String) : Json → Noted (RuleDatabase Float)
  | .object members =>
    let (signatures, n₁) := match Entries.find? "signatures" members with
      | some (.list items) => Document.ruleSignaturesFrom source 0 items
      | _ => ([], [])
    let (tokenizerRules, n₂) := Document.entries source Document.tokenizerRule
      (Entries.find? "tokenizer_rules" members)
    ({ signatures, tokenizerRules, source := some source }, n₁ ++ n₂)
  | _ => ({ source := some source }, [])

/-- The vector database of a document. A document that is no list gives an empty one. -/
def VectorDatabase.ofDocument (source : String) : Json → Except NumericError (Noted (VectorDatabase Float))
  | .list items => do
    let (signatures, notes) ← Document.vectorSignaturesFrom source 0 items
    return ({ signatures, source := some source }, notes)
  | _ => .ok ({ source := some source }, [])

end RiskGauge
