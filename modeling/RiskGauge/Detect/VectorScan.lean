import RiskGauge.Detect.RuleScan

/-!
# Vulnerabilities by their words

A source has the words of the signatures that occur in it as features, and those that tokenizer rules give
it. Its features are compared with the words of each signature by the cosine of the angle between them.
-/

namespace RiskGauge.VectorScan

variable {α : Type} [Scalar α]

/-- A word of ASCII letters, digits and underscores; a line feed at its end does not count. -/
def isWordToken (token : List Char) : Bool :=
  let body := if token.getLast? == some '\n' then token.dropLast else token
  !body.isEmpty && body.all fun c => Text.isAsciiAlnum c || c == '_'

/-- The occurrence of a token: a word at its full length, any other text anywhere. -/
def occurrence (token : String) : Pattern :=
  let text := Pattern.anyCase token
  if isWordToken token.toList then Pattern.all [.edge, text, .edge] else text

/-- The features with the words of a signature that occur in a text. -/
def addTokens (text : List Char) (features : Entries α) (sig : VectorSignature α) : Entries α :=
  sig.tokens.foldl
    (fun fs (token, weight) =>
      if token ≠ "" && (occurrence token).occursIn text then fs.change token 0.0 (· + weight) else fs)
    features

/-- The features with those that tokenizer rules give a text. -/
def addRules (text : List Char) : Entries α → List (TokenizerRule α) → Except Pattern.Fault (Entries α)
  | features, [] => .ok features
  | features, rule :: rest => do
    let hit ← if rule.pattern = "" then pure false else patternMatches text rule.pattern
    addRules text (if hit then features.change rule.feature 0.0 (· + rule.weight) else features) rest

/-- The features of a source. -/
def vectorize (vectors : VectorDatabase α) (rules : RuleDatabase α) (source : List Char) :
    Except Pattern.Fault (Entries α) :=
  let text := Text.lowercase source
  addRules text (vectors.signatures.foldl (addTokens text) [])
    (rules.allTokenizerRules ++ vectors.allTokenizerRules)

/-- All names of two lists of entries, each once. -/
def jointNames (a b : Entries α) : List String :=
  a.names ++ b.names.filter fun name => !a.has name

/-- The weight of a name, zero if it is missing. -/
def weight (a : Entries α) (name : String) : α :=
  (a.find? name).getD 0.0

/-- The sum of the products of the weights of each name. -/
def dot (names : List String) (a b : Entries α) : α :=
  Scalar.sum (names.map fun name => weight a name * weight b name)

/-- The cosine of the angle between two vectors, zero if one of them is zero. -/
def cosine (curves : Curves α) (a b : Entries α) : α :=
  let names := jointNames a b
  let aa := dot names a a
  let bb := dot names b b
  if Scalar.isZero aa || Scalar.isZero bb then 0.0 else dot names a b / (curves.sqrt aa * curves.sqrt bb)

/-- The severity of a signature for its similarity with a source. -/
def severity (curves : Curves α) (sig : VectorSignature α) (similarity : α) : α :=
  Scalar.clamp (Scalar.clamp sig.baseSeverity
    * Scalar.smaller 1.0 (curves.pow (Scalar.greater 0.0 similarity) 0.8 * 1.2))

/-- The finding for a signature. -/
def finding (curves : Curves α) (features : Entries α) (sig : VectorSignature α) : Finding α :=
  let similarity := cosine curves features sig.tokens
  { id := sig.id, title := sig.title, severity := severity curves sig similarity, raw := 0.0, similarity
    notes := sig.notes }

/-- The verdict of a vector database on a source. -/
def scan (curves : Curves α) (vectors : VectorDatabase α) (rules : RuleDatabase α) (topK : Int)
    (source : List Char) : Except Pattern.Fault (Verdict α) := do
  if vectors.signatures.isEmpty || source.isEmpty then return { severity := 0.0 }
  let features ← vectorize vectors rules source
  return .ofFindings topK (fun f => decide (0.15 < f.similarity)) (vectors.signatures.map (finding curves features))

end RiskGauge.VectorScan
