import RiskGauge.Entries

/-!
# Databases of vulnerabilities

A rule database describes vulnerabilities by patterns, a vector database by weighted words. The weights are
of any type `α` of numbers.
-/

namespace RiskGauge

/-- A pattern that gives a text a feature. -/
structure TokenizerRule (α : Type) where
  name : Option String
  pattern : String
  weight : α
deriving DecidableEq, Repr

/-- The feature that the rule gives: its name, or else its pattern. -/
def TokenizerRule.feature {α : Type} (r : TokenizerRule α) : String :=
  match r.name with
  | some "" => r.pattern
  | some name => name
  | none => r.pattern

/-- A pattern whose match speaks for a vulnerability. -/
structure MatchRule (α : Type) where
  pattern : String
  weight : α
  note : Option String
  token : Option String
  support : Option α
  rarity : α
deriving DecidableEq, Repr

/-- The name under which a match is reported: its token, or else its pattern. -/
def MatchRule.label {α : Type} (r : MatchRule α) : String :=
  match r.token with
  | some "" => r.pattern
  | some token => token
  | none => r.pattern

/-- Patterns that speak for a vulnerability together. -/
structure CooccurrenceRule (α : Type) where
  patterns : List String
  bonus : α
deriving DecidableEq, Repr

/-- Two patterns that speak for a vulnerability on lines close to each other. -/
structure ProximityRule (α : Type) where
  first : String
  second : String
  lines : Option Int
  bonus : α
deriving DecidableEq, Repr

/-- A pattern whose match speaks against a vulnerability. -/
structure NegativeRule (α : Type) where
  pattern : String
  penalty : α
  note : Option String
deriving DecidableEq, Repr

/-- A vulnerability described by patterns. -/
structure RuleSignature (α : Type) where
  id : String
  title : String
  baseSeverity : α
  rules : List (MatchRule α)
  cooccurrences : List (CooccurrenceRule α)
  proximities : List (ProximityRule α)
  negatives : List (NegativeRule α)
  group : Option String
  supportDocs : α
  tokenizerRules : List (TokenizerRule α)
deriving DecidableEq, Repr

/-- A vulnerability described by weighted words. -/
structure VectorSignature (α : Type) where
  id : String
  title : String
  tokens : Entries α
  baseSeverity : α
  notes : String
  tokenRules : List (TokenizerRule α)
deriving DecidableEq, Repr

/-- Vulnerabilities described by patterns. -/
structure RuleDatabase (α : Type) where
  signatures : List (RuleSignature α) := []
  tokenizerRules : List (TokenizerRule α) := []
  source : Option String := none
deriving DecidableEq, Repr

/-- The tokenizer rules of the database, then those of its signatures. -/
def RuleDatabase.allTokenizerRules {α : Type} (db : RuleDatabase α) : List (TokenizerRule α) :=
  db.tokenizerRules ++ db.signatures.flatMap (·.tokenizerRules)

/-- Vulnerabilities described by weighted words. -/
structure VectorDatabase (α : Type) where
  signatures : List (VectorSignature α) := []
  source : Option String := none
deriving DecidableEq, Repr

/-- The tokenizer rules of the signatures. -/
def VectorDatabase.allTokenizerRules {α : Type} (db : VectorDatabase α) : List (TokenizerRule α) :=
  db.signatures.flatMap (·.tokenRules)

end RiskGauge
