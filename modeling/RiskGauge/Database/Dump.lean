import RiskGauge.Database.Basic
import RiskGauge.Json.Basic

/-!
# Databases as documents

Every field is written; what is not set is null.
-/

namespace RiskGauge

namespace Dump

/-- A text that may be missing. -/
def text? : Option String → Json
  | some s => .text s
  | none => .null

/-- A number that may be missing. -/
def float? : Option Float → Json
  | some x => .float x
  | none => .null

/-- A whole number that may be missing. -/
def int? : Option Int → Json
  | some n => .int n
  | none => .null

/-- A tokenizer rule. -/
def tokenizerRule (r : TokenizerRule Float) : Json :=
  .object [("name", text? r.name), ("rx", .text r.pattern), ("w", .float r.weight)]

/-- A rule with a pattern that speaks for a vulnerability. -/
def matchRule (r : MatchRule Float) : Json :=
  .object [("rx", .text r.pattern), ("w", .float r.weight), ("note", text? r.note), ("token", text? r.token),
    ("support", float? r.support), ("idf", .float r.rarity)]

/-- A rule with patterns that speak for a vulnerability together. -/
def cooccurrenceRule (r : CooccurrenceRule Float) : Json :=
  .object [("patterns", .list (r.patterns.map .text)), ("bonus", .float r.bonus)]

/-- A rule with patterns on lines close to each other. -/
def proximityRule (r : ProximityRule Float) : Json :=
  .object [("a", .text r.first), ("b", .text r.second), ("lines", int? r.lines), ("bonus", .float r.bonus)]

/-- A rule with a pattern that speaks against a vulnerability. -/
def negativeRule (r : NegativeRule Float) : Json :=
  .object [("rx", .text r.pattern), ("penalty", .float r.penalty), ("note", text? r.note)]

/-- A vulnerability described by patterns. -/
def ruleSignature (s : RuleSignature Float) : Json :=
  .object [("id", .text s.id), ("title", .text s.title), ("base_severity", .float s.baseSeverity),
    ("rules", .list (s.rules.map matchRule)), ("cooccur", .list (s.cooccurrences.map cooccurrenceRule)),
    ("proximity", .list (s.proximities.map proximityRule)), ("negatives", .list (s.negatives.map negativeRule)),
    ("group", text? s.group), ("support_docs", .float s.supportDocs),
    ("tokenizer_rules", .list (s.tokenizerRules.map tokenizerRule))]

/-- A vulnerability described by weighted words. -/
def vectorSignature (s : VectorSignature Float) : Json :=
  .object [("id", .text s.id), ("title", .text s.title),
    ("tokens", .object (s.tokens.map fun (token, w) => (token, .float w))),
    ("base_severity", .float s.baseSeverity), ("notes", .text s.notes),
    ("token_regex", .list (s.tokenRules.map tokenizerRule))]

end Dump

/-- The document of a rule database. -/
def RuleDatabase.toDocument (db : RuleDatabase Float) : Json :=
  .object [("signatures", .list (db.signatures.map Dump.ruleSignature)),
    ("tokenizer_rules", .list (db.tokenizerRules.map Dump.tokenizerRule)), ("source", Dump.text? db.source)]

/-- The signatures of a vector database as a document. -/
def VectorDatabase.toDocument (db : VectorDatabase Float) : Json :=
  .list (db.signatures.map Dump.vectorSignature)

end RiskGauge
