import Mathlib.Data.List.Flatten
import RiskGauge.Proofs.Detect.Order
import RiskGauge.Proofs.Detect.Proximity

/-!
# Malformed patterns

A malformed pattern is as if it were not there: leaving out all entries of a signature that have one
(`RuleSignature.withoutMalformed`) changes neither its score nor the labels of the rules that match
(`RuleScan.rawScore_withoutMalformed`), and leaving out tokenizer rules that have one changes no feature
(`VectorScan.vectorize_withoutMalformed`). Both hold for all scalars, doubles included, since what is left out is never
added to anything. `Scanner.scan_withoutMalformed` says the same of a whole scan.
-/

namespace RiskGauge

variable {α : Type}

/-! ## Leaving out what is malformed -/

/-- The text does not follow the notation of patterns. -/
def isMalformed (rx : String) : Bool :=
  match Pattern.read rx.toList with
  | .error .malformed => true
  | _ => false

theorem compilePattern_of_malformed {rx : String} (h : isMalformed rx = true) : compilePattern rx = .ok none := by
  unfold isMalformed at h
  unfold compilePattern
  split at h
  · rename_i hread
    rw [hread]
  · cases h

theorem compiled?_of_malformed {rx : String} (h : isMalformed rx = true) : compiled? rx = none := by
  rw [compiled?, compilePattern_of_malformed h]
  rfl

theorem not_malformed_of_matchesIn {text : List Char} {rx : String} (h : matchesIn text rx = true) :
    isMalformed rx = false := by
  by_contra hmalformed
  rw [matchesIn, compiled?_of_malformed (Bool.of_not_eq_false hmalformed)] at h
  cases h

/-- The tokenizer rules whose patterns are not malformed. -/
def wellFormedRules (rules : List (TokenizerRule α)) : List (TokenizerRule α) :=
  rules.filter fun r => !isMalformed r.pattern

/-- The signature without the entries that have a malformed pattern. -/
def RuleSignature.withoutMalformed (sig : RuleSignature α) : RuleSignature α :=
  { sig with
    rules := sig.rules.filter fun r => !isMalformed r.pattern
    cooccurrences := sig.cooccurrences.filter fun r => !r.patterns.any isMalformed
    proximities := sig.proximities.filter fun r => !(isMalformed r.first || isMalformed r.second)
    negatives := sig.negatives.filter fun r => !isMalformed r.pattern
    tokenizerRules := wellFormedRules sig.tokenizerRules }

/-- The database without the entries and tokenizer rules that have a malformed pattern. -/
def RuleDatabase.withoutMalformed (db : RuleDatabase α) : RuleDatabase α :=
  { db with
    signatures := db.signatures.map RuleSignature.withoutMalformed
    tokenizerRules := wellFormedRules db.tokenizerRules }

/-- The database without the tokenizer rules that have a malformed pattern. -/
def VectorDatabase.withoutMalformed (db : VectorDatabase α) : VectorDatabase α :=
  { db with signatures := db.signatures.map fun sig => { sig with tokenRules := wellFormedRules sig.tokenRules } }

theorem RuleSignature.patterns_withoutMalformed_sublist (sig : RuleSignature α) :
    sig.withoutMalformed.patterns.Sublist sig.patterns :=
  (((List.filter_sublist.map _).append (List.filter_sublist.flatMap _)).append (List.filter_sublist.flatMap _)).append
    (List.filter_sublist.map _)

theorem RuleDatabase.allTokenizerRules_withoutMalformed (db : RuleDatabase α) :
    db.withoutMalformed.allTokenizerRules = wellFormedRules db.allTokenizerRules := by
  simp only [withoutMalformed, allTokenizerRules, wellFormedRules, List.filter_append, List.filter_flatMap,
    List.flatMap_map, RuleSignature.withoutMalformed]

theorem VectorDatabase.allTokenizerRules_withoutMalformed (db : VectorDatabase α) :
    db.withoutMalformed.allTokenizerRules = wellFormedRules db.allTokenizerRules := by
  simp only [withoutMalformed, allTokenizerRules, wellFormedRules, List.filter_flatMap, List.flatMap_map]

/-- Items that pass a test are still there after others have been left out. -/
theorem filter_filter_of_imp {β : Type} {p q : β → Bool} (h : ∀ x, p x = true → q x = true) (xs : List β) :
    (xs.filter q).filter p = xs.filter p := by
  rw [List.filter_filter]
  refine List.filter_congr fun x _ => ?_
  cases hp : p x with
  | false => rfl
  | true => rw [h x hp, Bool.true_and]

/-! ## Scores -/

namespace RuleScan

section Parts

variable (text : List Char) (sig : RuleSignature α)

theorem matching_withoutMalformed : matching text sig.withoutMalformed = matching text sig :=
  filter_filter_of_imp (fun _ h => by rw [not_malformed_of_matchesIn h, Bool.not_false]) _

theorem matchingAgainst_withoutMalformed : matchingAgainst text sig.withoutMalformed = matchingAgainst text sig :=
  filter_filter_of_imp (fun _ h => by rw [not_malformed_of_matchesIn h, Bool.not_false]) _

theorem matchingTogether_withoutMalformed :
    matchingTogether text sig.withoutMalformed = matchingTogether text sig := by
  refine filter_filter_of_imp (fun r h => ?_) _
  rw [Bool.and_eq_true, List.all_eq_true] at h
  rw [Bool.not_eq_true', List.any_eq_false]
  intro rx hrx
  rw [not_malformed_of_matchesIn (h.2 rx hrx)]
  exact Bool.false_ne_true

theorem closeCount_of_malformed (defaultLines : Int) (lines : List (List Char)) {rule : ProximityRule α}
    (h : (isMalformed rule.first || isMalformed rule.second) = true) : closeCount defaultLines lines rule = 0 := by
  rw [closeCount]
  cases hfirst : isMalformed rule.first with
  | true => rw [compiled?_of_malformed hfirst]
  | false =>
    rw [hfirst, Bool.false_or] at h
    rw [compiled?_of_malformed h]
    cases compiled? rule.first <;> rfl

end Parts

variable [Scalar α]

/-- Entries that are left out added nothing before. -/
theorem tally_withoutMalformed (text : List Char) (defaultLines : Int) (lines : List (List Char))
    (sig : RuleSignature α) :
    tally text defaultLines lines sig.withoutMalformed = tally text defaultLines lines sig := by
  have hclose : ∀ start : α,
      sig.withoutMalformed.proximities.foldl
          (fun sum r => addTimes r.bonus (closeCount defaultLines lines r) sum) start =
        sig.proximities.foldl (fun sum r => addTimes r.bonus (closeCount defaultLines lines r) sum) start := by
    intro start
    rw [RuleSignature.withoutMalformed, List.foldl_filter]
    refine List.foldl_ext _ _ _ fun sum r _ => ?_
    cases hr : isMalformed r.first || isMalformed r.second with
    | false => rfl
    | true =>
      rw [closeCount_of_malformed defaultLines lines hr]
      rfl
  simp only [tally, matching_withoutMalformed, matchingTogether_withoutMalformed, matchingAgainst_withoutMalformed,
    hclose]

theorem rawScore_withoutMalformed {sig : RuleSignature α} (h : ∀ rx ∈ sig.patterns, isReadable rx = true)
    (text : List Char) (defaultLines : Int) (lines : List (List Char)) :
    rawScore defaultLines sig.withoutMalformed text lines = rawScore defaultLines sig text lines := by
  rw [rawScore_eq_tally text defaultLines lines h,
    rawScore_eq_tally text defaultLines lines fun rx hrx => h rx (sig.patterns_withoutMalformed_sublist.subset hrx),
    tally_withoutMalformed, matching_withoutMalformed]

end RuleScan

/-! ## Features -/

namespace VectorScan

variable [Scalar α]

theorem addRules_wellFormedRules (text : List Char) (features : Entries α) (rules : List (TokenizerRule α)) :
    addRules text features (wellFormedRules rules) = addRules text features rules := by
  induction rules generalizing features with
  | nil => rfl
  | cons r rules ih =>
    rw [wellFormedRules, List.filter_cons]
    cases hr : isMalformed r.pattern with
    | false =>
      show addRules text features (r :: wellFormedRules rules) = _
      rw [addRules, addRules]
      simp only [ih]
    | true =>
      show addRules text features (wellFormedRules rules) = _
      rw [ih, addRules, patternMatches, compilePattern_of_malformed hr]
      split <;> rfl

theorem vectorize_withoutMalformed (vectors : VectorDatabase α) (rules : RuleDatabase α) (source : List Char) :
    vectorize vectors.withoutMalformed rules.withoutMalformed source = vectorize vectors rules source := by
  rw [vectorize, vectorize, RuleDatabase.allTokenizerRules_withoutMalformed,
    VectorDatabase.allTokenizerRules_withoutMalformed, wellFormedRules, wellFormedRules, ← List.filter_append,
    VectorDatabase.withoutMalformed, List.foldl_map]
  exact addRules_wellFormedRules _ _ _

end VectorScan

/-- A signature has the same score and the same labels without the entries that have a malformed pattern, and a source
has the same features without the tokenizer rules that have one. -/
theorem malformed_as_absent [Scalar α] {sig : RuleSignature α} (h : ∀ rx ∈ sig.patterns, isReadable rx = true)
    (defaultLines : Int) (text : List Char) (lines : List (List Char)) :
    (∃ raw labels, RuleScan.rawScore defaultLines sig text lines = .ok (raw, labels) ∧
      RuleScan.rawScore defaultLines sig.withoutMalformed text lines = .ok (raw, labels)) ∧
    ∀ (vectors : VectorDatabase α) (rules : RuleDatabase α) (source : List Char),
      VectorScan.vectorize vectors.withoutMalformed rules.withoutMalformed source =
        VectorScan.vectorize vectors rules source := by
  have hscore := RuleScan.rawScore_eq_tally text defaultLines lines h
  refine ⟨⟨_, _, hscore, ?_⟩, VectorScan.vectorize_withoutMalformed⟩
  rw [RuleScan.rawScore_withoutMalformed h, hscore]

/-- Entries of all kinds and a tokenizer rule are left out. -/
theorem malformed_as_absent_call :
    (∀ rx ∈ RuleScan.callSignature.patterns, isReadable rx = true) ∧
      RuleScan.callSignature.withoutMalformed ≠ RuleScan.callSignature ∧
      (∃ raw labels, RuleScan.rawScore 5 RuleScan.callSignature "eval".toList ["eval".toList] = .ok (raw, labels) ∧
        RuleScan.rawScore 5 RuleScan.callSignature.withoutMalformed "eval".toList ["eval".toList] =
          .ok (raw, labels)) ∧
      Scanner.callScanner.rules.withoutMalformed ≠ Scanner.callScanner.rules ∧
      VectorScan.vectorize Scanner.callScanner.vectors.withoutMalformed Scanner.callScanner.rules.withoutMalformed
          "eval(x)".toList =
        VectorScan.vectorize Scanner.callScanner.vectors Scanner.callScanner.rules "eval(x)".toList := by
  have hreadable : ∀ rx ∈ RuleScan.callSignature.patterns, isReadable rx = true := by decide +kernel
  obtain ⟨hscore, hfeatures⟩ := malformed_as_absent hreadable 5 "eval".toList ["eval".toList]
  exact ⟨hreadable, by decide +kernel, hscore, by decide +kernel, hfeatures _ _ _⟩

/-! ## Scans -/

theorem RuleScan.scan_withoutMalformed [Scalar α] (curves : Curves α) {db : RuleDatabase α}
    (h : ∀ sig ∈ db.signatures, ∀ rx ∈ sig.patterns, isReadable rx = true) (defaultLines topK : Int)
    (source : List Char) :
    scan curves db.withoutMalformed defaultLines topK source = scan curves db defaultLines topK source := by
  have hfindings : ∀ text lines, db.withoutMalformed.signatures.mapM (finding curves defaultLines text lines) =
      db.signatures.mapM (finding curves defaultLines text lines) := by
    intro text lines
    rw [RuleDatabase.withoutMalformed, List.mapM_map]
    refine mapM_congr fun sig hsig => ?_
    rw [Function.comp_apply, finding, rawScore_withoutMalformed (h sig hsig)]
    rfl
  have hempty : db.withoutMalformed.signatures.isEmpty = db.signatures.isEmpty := List.isEmpty_map
  simp only [scan, hfindings, hempty]

theorem VectorScan.scan_withoutMalformed [Scalar α] (curves : Curves α) (vectors : VectorDatabase α)
    (rules : RuleDatabase α) (topK : Int) (source : List Char) :
    scan curves vectors.withoutMalformed rules.withoutMalformed topK source =
      scan curves vectors rules topK source := by
  rw [scan, scan, vectorize_withoutMalformed, VectorDatabase.withoutMalformed, List.isEmpty_map]
  simp only [List.map_map]
  rfl

namespace Scanner

/-- The scanner without what has a malformed pattern in its databases. -/
def withoutMalformed (s : Scanner α) : Scanner α :=
  { s with rules := s.rules.withoutMalformed, vectors := s.vectors.withoutMalformed }

/-- A scan is the same without what has a malformed pattern. -/
theorem scan_withoutMalformed [Scalar α] (curves : Curves α) {s : Scanner α}
    (h : ∀ sig ∈ s.rules.signatures, ∀ rx ∈ sig.patterns, isReadable rx = true) (source : List Char) :
    s.withoutMalformed.scan curves source = s.scan curves source := by
  rw [scan, scan, withoutMalformed, RuleScan.scan_withoutMalformed curves h, VectorScan.scan_withoutMalformed]

end Scanner

end RiskGauge
