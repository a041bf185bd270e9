import RiskGauge.Detect.Scanner
import RiskGauge.Proofs.Detect.VectorScan

/-!
# The order of databases

Databases are `Rearranged` if they differ in the order of their signatures, of the entries of a signature and of their
tokenizer rules. Each part of a scan depends on these up to their order only: the evidence for a signature is a sum
over its entries (`RuleScan.evidence_congr`), the features are gathered from hits that come in another order
(`Rearranged.hits_perm`), and a verdict looks at the severities in falling order. `Rearranged.same_severities` puts
them together.
-/

namespace RiskGauge

variable {α : Type}

/-! ## Databases in another order -/

/-- Signatures that differ in the order of their entries only. -/
structure RuleSignature.Rearranged (a b : RuleSignature α) : Prop where
  rules : a.rules.Perm b.rules
  cooccurrences : a.cooccurrences.Perm b.cooccurrences
  proximities : a.proximities.Perm b.proximities
  negatives : a.negatives.Perm b.negatives
  tokenizerRules : a.tokenizerRules.Perm b.tokenizerRules
  rest : b = { a with
    rules := b.rules, cooccurrences := b.cooccurrences, proximities := b.proximities, negatives := b.negatives
    tokenizerRules := b.tokenizerRules }

/-- Databases that differ in the order of their signatures and of the entries of these, and in that of their tokenizer
rules. -/
structure RuleDatabase.Rearranged (a b : RuleDatabase α) : Prop where
  signatures : ∃ sigs, a.signatures.Perm sigs ∧ List.Forall₂ RuleSignature.Rearranged sigs b.signatures
  tokenizerRules : a.tokenizerRules.Perm b.tokenizerRules

/-- Scanners with the same options whose databases differ in their order only. -/
structure Scanner.Rearranged (s t : Scanner α) : Prop where
  rules : s.rules.Rearranged t.rules
  vectors : s.vectors.signatures.Perm t.vectors.signatures
  proximityLines : s.proximityLines = t.proximityLines
  topK : s.topK = t.topK

theorem RuleSignature.Rearranged.patterns_perm {a b : RuleSignature α} (h : a.Rearranged b) :
    a.patterns.Perm b.patterns :=
  (((h.rules.map _).append (h.cooccurrences.flatMap_right _)).append (h.proximities.flatMap_right _)).append
    (h.negatives.map _)

namespace RuleDatabase.Rearranged

variable {a b : RuleDatabase α}

theorem flatMap_perm {β : Type} {f : RuleSignature α → List β} (h : a.Rearranged b)
    (hf : ∀ {s t : RuleSignature α}, s.Rearranged t → (f s).Perm (f t)) :
    (a.signatures.flatMap f).Perm (b.signatures.flatMap f) := by
  -- The signatures first take their new places, and then change inside one by one.
  obtain ⟨sigs, hperm, hsame⟩ := h.signatures
  refine (hperm.flatMap_right f).trans ?_
  clear hperm
  generalize b.signatures = sigs' at hsame ⊢
  induction hsame with
  | nil => rfl
  | cons hst _ ih => exact (hf hst).append ih

theorem map_perm {β : Type} {f : RuleSignature α → β} (h : a.Rearranged b)
    (hf : ∀ {s t : RuleSignature α}, s.Rearranged t → f s = f t) :
    (a.signatures.map f).Perm (b.signatures.map f) := by
  rw [List.map_eq_flatMap, List.map_eq_flatMap]
  exact h.flatMap_perm fun hst => by rw [hf hst]

theorem allTokenizerRules_perm (h : a.Rearranged b) : a.allTokenizerRules.Perm b.allTokenizerRules :=
  h.tokenizerRules.append (h.flatMap_perm (·.tokenizerRules))

end RuleDatabase.Rearranged

namespace Scanner

/-- The tokenizer rules of both databases. -/
def tokenizerRules (s : Scanner α) : List (TokenizerRule α) :=
  s.rules.allTokenizerRules ++ s.vectors.allTokenizerRules

/-- The patterns that a source is scanned with. -/
def patterns (s : Scanner α) : List String :=
  s.rules.signatures.flatMap (·.patterns) ++ s.tokenizerRules.map (·.pattern)

namespace Rearranged

variable {s t : Scanner α}

theorem tokenizerRules_perm (h : s.Rearranged t) : s.tokenizerRules.Perm t.tokenizerRules :=
  h.rules.allTokenizerRules_perm.append (h.vectors.flatMap_right _)

theorem patterns_perm (h : s.Rearranged t) : s.patterns.Perm t.patterns :=
  (h.rules.flatMap_perm RuleSignature.Rearranged.patterns_perm).append (h.tokenizerRules_perm.map _)

theorem hits_perm (h : s.Rearranged t) (text : List Char) :
    (VectorScan.hits text s.vectors s.rules).Perm (VectorScan.hits text t.vectors t.rules) :=
  (h.vectors.flatMap_right _).append ((h.tokenizerRules_perm.filter _).map _)

end Rearranged

end Scanner

/-! ## Severities -/

attribute [local instance] Scalar.ofField

variable {K : Type} [Field K] [LinearOrder K]

namespace RuleScan

theorem evidence_congr {a b : RuleSignature K} (h : a.Rearranged b) (defaultLines : Int) (text : List Char)
    (lines : List (List Char)) : evidence defaultLines text lines a = evidence defaultLines text lines b := by
  have hmatching : (matching text a).Perm (matching text b) := h.rules.filter _
  have htogether : (matchingTogether text a).Perm (matchingTogether text b) := h.cooccurrences.filter _
  have hagainst : (matchingAgainst text a).Perm (matchingAgainst text b) := h.negatives.filter _
  rw [evidence, evidence, (hmatching.map _).sum_eq, (htogether.map _).sum_eq, (h.proximities.map _).sum_eq,
    (hagainst.map _).sum_eq]

theorem severity_findingOf_congr (curves : Curves K) {a b : RuleSignature K} (h : a.Rearranged b)
    (defaultLines : Int) (text : List Char) (lines : List (List Char)) :
    (findingOf curves defaultLines text lines a).severity = (findingOf curves defaultLines text lines b).severity := by
  have hseverity : severity curves a = severity curves b := by
    rw [h.rest]
    rfl
  rw [findingOf, findingOf, evidence_congr h, hseverity]

end RuleScan

variable [IsStrictOrderedRing K]

namespace Scanner

variable {s t : Scanner K}

theorem Rearranged.same_rule_severity (h : s.Rearranged t)
    (hs : ∀ sig ∈ s.rules.signatures, ∀ rx ∈ sig.patterns, isReadable rx = true)
    (ht : ∀ sig ∈ t.rules.signatures, ∀ rx ∈ sig.patterns, isReadable rx = true) (curves : Curves K)
    (source : List Char) :
    ∃ v w, RuleScan.scan curves s.rules s.proximityLines s.topK source = .ok v ∧
      RuleScan.scan curves t.rules t.proximityLines t.topK source = .ok w ∧ v.severity = w.severity := by
  obtain ⟨v, hv, hseverity⟩ := RuleScan.exists_scan curves s.rules hs s.proximityLines s.topK source
  obtain ⟨w, hw, hseverity'⟩ := RuleScan.exists_scan curves t.rules ht t.proximityLines t.topK source
  refine ⟨v, w, hv, hw, ?_⟩
  rw [hseverity, hseverity', h.topK, h.proximityLines]
  split
  · rfl
  · refine Verdict.severity_ofFindings_congr _ _ _ ?_
    rw [List.map_map, List.map_map]
    exact h.rules.map_perm fun hst => RuleScan.severity_findingOf_congr curves hst _ _ _

theorem Rearranged.same_vector_severity (h : s.Rearranged t) (hs : ∀ r ∈ s.tokenizerRules, isReadable r.pattern = true)
    (ht : ∀ r ∈ t.tokenizerRules, isReadable r.pattern = true) (curves : Curves K) (source : List Char) :
    ∃ v w, VectorScan.scan curves s.vectors s.rules s.topK source = .ok v ∧
      VectorScan.scan curves t.vectors t.rules t.topK source = .ok w ∧ v.severity = w.severity := by
  obtain ⟨v, hv, hseverity⟩ := VectorScan.exists_scan curves hs s.topK source
  obtain ⟨w, hw, hseverity'⟩ := VectorScan.exists_scan curves ht t.topK source
  refine ⟨v, w, hv, hw, ?_⟩
  rw [hseverity, hseverity', h.topK]
  split
  · rfl
  · rw [VectorScan.finding_gather_perm curves (h.hits_perm _)]
    exact Verdict.severity_ofFindings_congr _ _ _ ((h.vectors.map _).map _)

/-- Scanners that differ in the order of their databases give the same severities and the same features, ties in the
ranking included. -/
theorem Rearranged.same_severities (h : s.Rearranged t) (hs : ∀ rx ∈ s.patterns, isReadable rx = true)
    (curves : Curves K) (source : List Char) :
    (∃ d e, s.scan curves source = .ok d ∧ t.scan curves source = .ok e ∧
      d.ruleVerdict.severity = e.ruleVerdict.severity ∧ d.vectorVerdict.severity = e.vectorVerdict.severity ∧
      d.severity = e.severity) ∧
    ∃ a b, VectorScan.vectorize s.vectors s.rules source = .ok a ∧
      VectorScan.vectorize t.vectors t.rules source = .ok b ∧ ∀ name, a.find? name = b.find? name := by
  have ht : ∀ rx ∈ t.patterns, isReadable rx = true := fun rx hrx => hs rx (h.patterns_perm.mem_iff.mpr hrx)
  simp only [patterns, List.forall_mem_append, List.forall_mem_flatMap, List.forall_mem_map] at hs ht
  refine ⟨?_, _, _, VectorScan.vectorize_eq hs.2 source, VectorScan.vectorize_eq ht.2 source,
    VectorScan.find?_gather_perm (h.hits_perm _)⟩
  obtain ⟨v, w, hv, hw, hrules⟩ := h.same_rule_severity hs.1 ht.1 curves source
  obtain ⟨x, y, hx, hy, hvectors⟩ := h.same_vector_severity hs.2 ht.2 curves source
  simp only [scan, hv, hw, hx, hy]
  refine ⟨_, _, rfl, rfl, hrules, hvectors, ?_⟩
  rw [hrules, hvectors]

/-- A scanner with its databases in the opposite order. -/
def reversed (s : Scanner α) : Scanner α :=
  { s with
    rules := { s.rules with
      signatures := s.rules.signatures.reverse.map fun sig => { sig with
        rules := sig.rules.reverse, cooccurrences := sig.cooccurrences.reverse
        proximities := sig.proximities.reverse, negatives := sig.negatives.reverse
        tokenizerRules := sig.tokenizerRules.reverse }
      tokenizerRules := s.rules.tokenizerRules.reverse }
    vectors := { s.vectors with signatures := s.vectors.signatures.reverse } }

theorem rearranged_reversed (s : Scanner α) : s.Rearranged s.reversed where
  rules := ⟨⟨s.rules.signatures.reverse, (List.reverse_perm _).symm, by
    refine List.forall₂_map_right_iff.mpr (List.forall₂_same.mpr fun sig _ => ?_)
    exact ⟨(List.reverse_perm _).symm, (List.reverse_perm _).symm, (List.reverse_perm _).symm,
      (List.reverse_perm _).symm, (List.reverse_perm _).symm, rfl⟩⟩, (List.reverse_perm _).symm⟩
  vectors := (List.reverse_perm _).symm
  proximityLines := rfl
  topK := rfl

/-- A scanner for calls that run text, where all findings but the weakest count. -/
def callScanner : Scanner ℚ where
  rules := {
    signatures := [RuleScan.ofPattern "eval", { RuleScan.ofPattern "exec(" with
      tokenizerRules := [⟨some "call", "eval", 2⟩, ⟨some "call", "(", 3⟩] }]
    tokenizerRules := [⟨none, "exec", 1⟩, ⟨none, "x", 1 / 2⟩] }
  vectors := {
    signatures := [("eval", [("eval", 1), ("x", 1)]), ("call", [("call", 1), ("x", 2)])].map fun (id, tokens) =>
      { id, title := "", tokens, baseSeverity := 1, notes := "", tokenRules := [] } }
  topK := -1

/-- Some patterns of the scanner are malformed, and two of its rules give the same feature. -/
theorem callScanner_same_severities :
    callScanner.reversed.rules ≠ callScanner.rules ∧ callScanner.Rearranged callScanner.reversed ∧
      (∀ rx ∈ callScanner.patterns, isReadable rx = true) ∧
      (∃ d e, callScanner.scan RuleScan.plainCurves "eval(x)".toList = .ok d ∧
        callScanner.reversed.scan RuleScan.plainCurves "eval(x)".toList = .ok e ∧
        d.ruleVerdict.severity = e.ruleVerdict.severity ∧ d.vectorVerdict.severity = e.vectorVerdict.severity ∧
        d.severity = e.severity) ∧
      ∃ a b, VectorScan.vectorize callScanner.vectors callScanner.rules "eval(x)".toList = .ok a ∧
        VectorScan.vectorize callScanner.reversed.vectors callScanner.reversed.rules "eval(x)".toList = .ok b ∧
        ∀ name, a.find? name = b.find? name :=
  have hreadable : ∀ rx ∈ callScanner.patterns, isReadable rx = true := by decide +kernel
  ⟨by decide +kernel, rearranged_reversed _, hreadable,
    (rearranged_reversed _).same_severities hreadable RuleScan.plainCurves "eval(x)".toList⟩

end Scanner

end RiskGauge
