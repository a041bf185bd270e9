import RiskGauge.Proofs.Detect.Cosine

/-!
# Words that are present

The features of a source are shared by all signatures, so what one signature adds to them shows in the similarity with
every other one. A signature adds nothing if it is `Irrelevant`: none of its words is present (`isPresent`), and none of
its tokenizer rules matches (`Misses`).

* `addTokens_of_absent`, `addRules_of_misses`: such words and such rules leave the features as they are, for scalars of
  any kind;
* `vectorize_insert`: a source has the same features with and without an irrelevant signature, or the same pattern
  fails; `irrelevant_signature_inert` says what this means for findings and for scans;
* `vectorize_of_others_irrelevant`: if all other signatures are irrelevant and all words of one are present, then its
  words are the features, and its similarity is one (`similarity_of_only_match`).
-/

namespace RiskGauge.VectorScan

section Features

variable {α : Type}

/-- A word is present in a text: it is not empty, and it occurs there. -/
def isPresent (text : List Char) (token : String) : Bool :=
  token ≠ "" && (occurrence token).occursIn text

/-- A tokenizer rule is tested on a text and does not match; one without a pattern is not tested. -/
def Misses (text : List Char) (r : TokenizerRule α) : Prop :=
  r.pattern = "" ∨ patternMatches text r.pattern = .ok false

/-- None of the words of a signature is present in a text, and none of its tokenizer rules matches. -/
structure Irrelevant (text : List Char) (sig : VectorSignature α) : Prop where
  words : ∀ token ∈ sig.tokens.names, isPresent text token = false
  rules : ∀ r ∈ sig.tokenRules, Misses text r

variable {text : List Char}

/-! ## Adding nothing -/

theorem wordHits_of_absent {sig : VectorSignature α} (h : ∀ token ∈ sig.tokens.names, isPresent text token = false) :
    wordHits text sig = [] :=
  List.filter_eq_nil_iff.mpr fun word hword => Bool.eq_false_iff.mp (h word.1 (List.mem_map_of_mem hword))

variable [Scalar α]

theorem addTokens_of_absent {sig : VectorSignature α} (h : ∀ token ∈ sig.tokens.names, isPresent text token = false)
    (features : Entries α) : addTokens text features sig = features := by
  rw [addTokens_eq, wordHits_of_absent h]
  rfl

theorem foldl_addTokens_of_absent {sigs : List (VectorSignature α)}
    (h : ∀ sig ∈ sigs, ∀ token ∈ sig.tokens.names, isPresent text token = false) (features : Entries α) :
    sigs.foldl (addTokens text) features = features := by
  rw [foldl_addTokens, List.flatMap_eq_nil_iff.mpr fun sig hsig => wordHits_of_absent (h sig hsig)]
  rfl

theorem addRules_append (features : Entries α) (xs ys : List (TokenizerRule α)) :
    addRules text features (xs ++ ys) = addRules text features xs >>= fun fs => addRules text fs ys := by
  induction xs generalizing features with
  | nil => rfl
  | cons r xs ih =>
    rw [List.cons_append, addRules, addRules]
    simp only [ih]
    split
    · rfl
    · cases patternMatches text r.pattern <;> rfl

theorem addRules_of_misses {rules : List (TokenizerRule α)} (h : ∀ r ∈ rules, Misses text r) (features : Entries α) :
    addRules text features rules = .ok features := by
  induction rules with
  | nil => rfl
  | cons r rules ih =>
    rw [List.forall_mem_cons] at h
    rw [addRules]
    split
    · exact ih h.2
    · rename_i hpattern
      rw [h.1.resolve_left hpattern]
      exact ih h.2

/-! ## One more signature -/

variable (vectors : VectorDatabase α) (rules : RuleDatabase α) (before after : List (VectorSignature α))
  {sig : VectorSignature α} {source : List Char}

/-- An irrelevant signature changes no feature, wherever it stands, nor does it change which pattern fails. -/
theorem vectorize_insert (h : Irrelevant (Text.lowercase source) sig) :
    vectorize { vectors with signatures := before ++ sig :: after } rules source =
      vectorize { vectors with signatures := before ++ after } rules source := by
  simp only [vectorize, VectorDatabase.allTokenizerRules, List.foldl_append, List.foldl_cons,
    addTokens_of_absent h.words, List.flatMap_append, List.flatMap_cons, addRules_append, addRules_of_misses h.rules]
  rfl

end Features

attribute [local instance] Scalar.ofField

variable {K : Type} [Field K] [LinearOrder K] [IsStrictOrderedRing K]

theorem severity_mem (curves : Curves K) (sig : VectorSignature K) (similarity : K) :
    0 ≤ severity curves sig similarity ∧ severity curves sig similarity ≤ 1 :=
  ⟨Scalar.clamp_nonneg _, Scalar.clamp_le_one _⟩

/-- A finding for one more signature never lowers the severity of a verdict. -/
theorem severity_insert_le (curves : Curves K) (features : Entries K) (before after : List (VectorSignature K))
    (sig : VectorSignature K) (topK : Int) (reported : Finding K → Bool) :
    (Verdict.ofFindings topK reported ((before ++ after).map (finding curves features))).severity ≤
      (Verdict.ofFindings topK reported ((before ++ sig :: after).map (finding curves features))).severity := by
  rw [List.map_append, List.map_append, List.map_cons]
  refine Verdict.severity_ofFindings_insert_le topK _ _ _ fun g hg => ?_
  rw [← List.map_cons, ← List.map_append] at hg
  obtain ⟨s, -, rfl⟩ := List.mem_map.mp hg
  exact severity_mem curves s _

/-- An irrelevant signature leaves the features, the findings for all other signatures and the patterns that fail as
they are. It never lowers the severity of a database that is not empty, however many of the strongest findings count. -/
theorem irrelevant_signature_inert (curves : Curves K) (vectors : VectorDatabase K) (rules : RuleDatabase K)
    (before after : List (VectorSignature K)) {sig : VectorSignature K} {source : List Char}
    (h : Irrelevant (Text.lowercase source) sig) :
    vectorize { vectors with signatures := before ++ sig :: after } rules source =
      vectorize { vectors with signatures := before ++ after } rules source ∧
    (∀ s ∈ before ++ after,
      (vectorize { vectors with signatures := before ++ sig :: after } rules source).map (finding curves · s) =
        (vectorize { vectors with signatures := before ++ after } rules source).map (finding curves · s)) ∧
    (before ++ after ≠ [] → ∀ topK : Int,
      (∃ smaller larger,
        scan curves { vectors with signatures := before ++ after } rules topK source = .ok smaller ∧
        scan curves { vectors with signatures := before ++ sig :: after } rules topK source = .ok larger ∧
        smaller.severity ≤ larger.severity) ∨
      ∃ fault, scan curves { vectors with signatures := before ++ after } rules topK source = .error fault ∧
        scan curves { vectors with signatures := before ++ sig :: after } rules topK source = .error fault) := by
  have hfeatures := vectorize_insert vectors rules before after h
  refine ⟨hfeatures, fun s _ => by rw [hfeatures], fun hne topK => ?_⟩
  have hsmaller : (before ++ after).isEmpty = false := List.isEmpty_eq_false_iff.mpr hne
  have hlarger : (before ++ sig :: after).isEmpty = false := by simp
  simp only [scan, hfeatures, hsmaller, hlarger, Bool.false_or]
  cases source.isEmpty with
  | true => exact .inl ⟨_, _, rfl, rfl, le_rfl⟩
  | false =>
    cases vectorize { vectors with signatures := before ++ after } rules source with
    | error fault => exact .inr ⟨fault, rfl, rfl⟩
    | ok features => exact .inl ⟨_, _, rfl, rfl, severity_insert_le curves features before after sig topK _⟩

/-- A signature with words alone. -/
def ofWords {α : Type} [One α] (id : String) (tokens : Entries α) : VectorSignature α where
  id := id
  title := ""
  tokens := tokens
  baseSeverity := 1
  notes := ""
  tokenRules := []

/-- A signature with a word that is a part of another one, an empty word, and rules without a pattern and with a
malformed one. -/
def execSignature : VectorSignature ℚ :=
  { ofWords "exec" [("val", 1), ("exec", 2), ("", 5)] with
    tokenRules := [⟨none, "spawn", 1⟩, ⟨some "open", "(", 3⟩, ⟨some "any", "", 1⟩] }

/-- It is put between two signatures, where all findings but the weakest count. -/
theorem execSignature_inert :
    Irrelevant (Text.lowercase "Eval(x)".toList) execSignature ∧
      vectorize { signatures := [ofWords "eval" [("eval", 1), ("x", 1)], execSignature, ofWords "call" [("x", 2)]] } {}
          "Eval(x)".toList =
        vectorize { signatures := [ofWords "eval" [("eval", 1), ("x", 1)], ofWords "call" [("x", (2 : ℚ))]] } {}
          "Eval(x)".toList ∧
      ∃ smaller larger,
        scan RuleScan.plainCurves { signatures := [ofWords "eval" [("eval", 1), ("x", 1)], ofWords "call" [("x", 2)]] }
          {} (-1) "Eval(x)".toList = .ok smaller ∧
        scan RuleScan.plainCurves
          { signatures := [ofWords "eval" [("eval", 1), ("x", 1)], execSignature, ofWords "call" [("x", 2)]] }
          {} (-1) "Eval(x)".toList = .ok larger ∧
        smaller.severity ≤ larger.severity := by
  have hirrelevant : Irrelevant (Text.lowercase "Eval(x)".toList) execSignature := by
    refine ⟨by decide +kernel, ?_⟩
    simp only [execSignature, List.forall_mem_cons]
    exact ⟨.inr (by decide +kernel), .inr (by decide +kernel), .inl rfl, fun _ h => nomatch h⟩
  obtain ⟨hfeatures, -, hscan⟩ := irrelevant_signature_inert RuleScan.plainCurves {} {}
    [ofWords "eval" [("eval", 1), ("x", 1)]] [ofWords "call" [("x", 2)]] hirrelevant
  refine ⟨hirrelevant, hfeatures, (hscan (by simp) (-1)).resolve_right ?_⟩
  rintro ⟨fault, hfault, -⟩
  have hreadable : ∀ r ∈ RuleDatabase.allTokenizerRules {} ++ VectorDatabase.allTokenizerRules (α := ℚ)
      { signatures := [ofWords "eval" [("eval", 1), ("x", 1)], ofWords "call" [("x", 2)]] },
      isReadable r.pattern = true := fun r hr => nomatch hr
  obtain ⟨v, hv, -⟩ := exists_scan RuleScan.plainCurves hreadable (-1) "Eval(x)".toList
  exact nomatch hv.symm.trans hfault

/-! ## The only signature that matches -/

/-- Words with their weights that are gathered from the start are the features. -/
theorem gather_of_nodup {tokens : Entries K} (h : tokens.names.Nodup) : gather [] tokens = tokens := by
  induction tokens using List.reverseRecOn with
  | nil => rfl
  | append_singleton tokens e ih =>
    rw [Entries.names, List.map_append, List.nodup_append] at h
    have hnew : e.1 ∉ Entries.names tokens := fun he => h.2.2 e.1 he e.1 (by simp) rfl
    have hnone : Entries.find? e.1 tokens = none := by simpa using Entries.isSome_find?.not.mpr hnew
    rw [gather_append, ih h.1]
    show Entries.assign e.1 ((Entries.find? e.1 tokens).getD 0.0 + e.2) tokens = _
    rw [hnone, Entries.assign_of_not_mem hnew]
    norm_num

/-- Where the words of one signature are present and nothing else matches, these words are the features. -/
theorem vectorize_of_others_irrelevant (vectors : VectorDatabase K) {rules : RuleDatabase K}
    {before after : List (VectorSignature K)} {sig : VectorSignature K} {source : List Char}
    (hnames : sig.tokens.names.Nodup)
    (hpresent : ∀ token ∈ sig.tokens.names, isPresent (Text.lowercase source) token = true)
    (hothers : ∀ other ∈ before ++ after, Irrelevant (Text.lowercase source) other)
    (hrules : ∀ r ∈ rules.allTokenizerRules ++ sig.tokenRules, Misses (Text.lowercase source) r) :
    vectorize { vectors with signatures := before ++ sig :: after } rules source = .ok sig.tokens := by
  rw [List.forall_mem_append] at hothers hrules
  have hhits : wordHits (Text.lowercase source) sig = sig.tokens :=
    List.filter_eq_self.mpr fun word hword => hpresent word.1 (List.mem_map_of_mem hword)
  have hwords : (before ++ sig :: after).foldl (addTokens (Text.lowercase source)) [] = sig.tokens := by
    rw [List.foldl_append, List.foldl_cons,
      foldl_addTokens_of_absent fun other hother => (hothers.1 other hother).words,
      foldl_addTokens_of_absent fun other hother => (hothers.2 other hother).words, addTokens_eq, hhits,
      gather_of_nodup hnames]
  have hall : ∀ r ∈ rules.allTokenizerRules ++ (before ++ sig :: after).flatMap (·.tokenRules),
      Misses (Text.lowercase source) r := by
    simp only [List.forall_mem_append, List.forall_mem_flatMap, List.forall_mem_cons]
    exact ⟨hrules.1, fun other hother => (hothers.1 other hother).rules, hrules.2,
      fun other hother => (hothers.2 other hother).rules⟩
  show addRules (Text.lowercase source) ((before ++ sig :: after).foldl (addTokens (Text.lowercase source)) [])
    (rules.allTokenizerRules ++ (before ++ sig :: after).flatMap (·.tokenRules)) = _
  rw [hwords, addRules_of_misses hall]

/-- The gain makes up for the power, so that the full similarity gives the full severity. -/
theorem severity_of_full_similarity {curves : Curves K} (h : ∀ y, curves.pow 1 y = 1) (sig : VectorSignature K) :
    severity curves sig 1 = Scalar.clamp sig.baseSeverity := by
  have hpower : Scalar.smaller 1.0 (curves.pow (Scalar.greater 0.0 1) 0.8 * 1.2) = (1 : K) := by
    rw [Scalar.greater_eq_max, Scalar.smaller_eq_min]
    norm_num [h]
  rw [severity, hpower, mul_one, Scalar.clamp_of_mem (Scalar.clamp_nonneg _) (Scalar.clamp_le_one _)]

/-- If all words of a signature are present in a source, some of them with a weight other than zero, and if all other
signatures are irrelevant and no tokenizer rule matches, then its similarity is one, and it has its full severity. -/
theorem similarity_of_only_match {curves : Curves K} (hroot : curves.ExactRoot) (hpow : ∀ y, curves.pow 1 y = 1)
    (vectors : VectorDatabase K) {rules : RuleDatabase K} {before after : List (VectorSignature K)}
    {sig : VectorSignature K} {source : List Char} (hnames : sig.tokens.names.Nodup)
    (hweight : ∃ word ∈ sig.tokens, word.2 ≠ 0)
    (hpresent : ∀ token ∈ sig.tokens.names, isPresent (Text.lowercase source) token = true)
    (hothers : ∀ other ∈ before ++ after, Irrelevant (Text.lowercase source) other)
    (hrules : ∀ r ∈ rules.allTokenizerRules ++ sig.tokenRules, Misses (Text.lowercase source) r) :
    ∃ features, vectorize { vectors with signatures := before ++ sig :: after } rules source = .ok features ∧
      (finding curves features sig).similarity = 1 ∧
      (finding curves features sig).severity = Scalar.clamp sig.baseSeverity := by
  have hself : cosine curves sig.tokens sig.tokens = 1 := cosine_self hroot hnames hweight
  refine ⟨sig.tokens, vectorize_of_others_irrelevant vectors hnames hpresent hothers hrules, hself, ?_⟩
  rw [finding, hself]
  exact severity_of_full_similarity hpow sig

/-- Words with weights of any sign, of which one is no word, next to a signature with an empty word. -/
theorem similarity_of_only_match_merge :
    let sig : VectorSignature ℝ := ofWords "proto" [("merge", 1), ("__proto__", -2), (".", 0)]
    let other : VectorSignature ℝ := ofWords "eval" [("eval", 1), ("", 4)]
    let rules : RuleDatabase ℝ := { tokenizerRules := [⟨none, "new\\s+function", 1⟩] }
    let source := "Merge(a, b); a.__proto__ = x;".toList
    Curves.real.ExactRoot ∧ (∀ y, Curves.real.pow 1 y = 1) ∧ sig.tokens.names.Nodup ∧
      (∃ word ∈ sig.tokens, word.2 ≠ 0) ∧
      (∀ token ∈ sig.tokens.names, isPresent (Text.lowercase source) token = true) ∧
      Irrelevant (Text.lowercase source) other ∧
      (∀ r ∈ rules.allTokenizerRules ++ sig.tokenRules, Misses (Text.lowercase source) r) ∧
      ∃ features, vectorize { signatures := [other, sig] } rules source = .ok features ∧
        (finding Curves.real features sig).similarity = 1 ∧
        (finding Curves.real features sig).severity = Scalar.clamp sig.baseSeverity := by
  intro sig other rules source
  have hpow : ∀ y, Curves.real.pow 1 y = 1 := Real.one_rpow
  have hnames : sig.tokens.names.Nodup := by decide
  have hweight : ∃ word ∈ sig.tokens, word.2 ≠ 0 := ⟨("merge", 1), List.mem_cons_self, one_ne_zero⟩
  have hpresent : ∀ token ∈ sig.tokens.names, isPresent (Text.lowercase source) token = true := by decide +kernel
  have hother : Irrelevant (Text.lowercase source) other := ⟨by decide +kernel, fun _ h => nomatch h⟩
  have htest : patternMatches (Text.lowercase source) "new\\s+function" = .ok false := by decide +kernel
  have hrules : ∀ r ∈ rules.allTokenizerRules ++ sig.tokenRules, Misses (Text.lowercase source) r := by
    intro r hr
    obtain rfl : r = ⟨none, "new\\s+function", 1⟩ := List.mem_singleton.mp hr
    exact .inr htest
  have hothers : ∀ s ∈ [other] ++ [], Irrelevant (Text.lowercase source) s := List.forall_mem_singleton.mpr hother
  have hmatch := similarity_of_only_match Curves.real_exactRoot hpow {} hnames hweight hpresent hothers hrules
  exact ⟨Curves.real_exactRoot, hpow, hnames, hweight, hpresent, hother, hrules, hmatch⟩

end RiskGauge.VectorScan
