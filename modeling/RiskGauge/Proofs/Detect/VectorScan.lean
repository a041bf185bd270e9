import Mathlib.Algebra.BigOperators.Group.List.Basic
import Mathlib.Data.List.Induction
import Mathlib.Tactic.Ring
import RiskGauge.Detect.VectorScan
import RiskGauge.Proofs.Detect.RuleScan
import RiskGauge.Proofs.Entries

/-!
# The features of a source

The features of a source are gathered from hits: a word of a signature that occurs in it, or a tokenizer rule that
matches it, each with a weight (`vectorize_eq`). Over the numbers of any ordered field

* the weight of a feature is the sum of the weights of its hits (`find?_gather`), so that it does not matter in which
  order the hits come (`find?_gather_perm`);
* the similarity with a signature depends on the weight of each feature alone (`cosine_congr`), and so the findings do
  not depend on the order of the hits either (`finding_gather_perm`);
* a scan gives a verdict on the findings for all signatures (`exists_scan`).
-/

namespace RiskGauge.VectorScan

/-! ## Hits -/

section Hits

variable {α : Type} (text : List Char)

/-- The words of a signature that occur in a text. -/
def wordHits (sig : VectorSignature α) : List (String × α) :=
  sig.tokens.filter fun word => word.1 ≠ "" && (occurrence word.1).occursIn text

/-- The features that tokenizer rules give a text. -/
def ruleHits (rules : List (TokenizerRule α)) : List (String × α) :=
  (rules.filter fun r => r.pattern ≠ "" && matchesIn text r.pattern).map fun r => (r.feature, r.weight)

/-- The hits of both databases on a text. -/
def hits (vectors : VectorDatabase α) (rules : RuleDatabase α) : List (String × α) :=
  vectors.signatures.flatMap (wordHits text) ++ ruleHits text (rules.allTokenizerRules ++ vectors.allTokenizerRules)

/-- The weights of the hits of a feature. -/
def weightsOf (name : String) (hits : List (String × α)) : List α :=
  (hits.filter (·.1 = name)).map (·.2)

theorem weightsOf_concat (name : String) (hits : List (String × α)) (hit : String × α) :
    weightsOf name (hits ++ [hit]) = weightsOf name hits ++ if hit.1 = name then [hit.2] else [] := by
  rw [weightsOf, List.filter_append, List.map_append, weightsOf]
  by_cases hname : hit.1 = name <;> simp [hname]

variable [Scalar α] {text}

/-- The features with the weights of hits added to them. -/
def gather (features : Entries α) (hits : List (String × α)) : Entries α :=
  hits.foldl (fun fs hit => fs.change hit.1 0.0 (· + hit.2)) features

theorem gather_append (features : Entries α) (xs ys : List (String × α)) :
    gather features (xs ++ ys) = gather (gather features xs) ys :=
  List.foldl_append

theorem nodup_names_gather (hits : List (String × α)) : (gather [] hits).names.Nodup := by
  induction hits using List.reverseRecOn with
  | nil => exact List.nodup_nil
  | append_singleton hits hit ih =>
    rw [gather_append]
    exact Entries.nodup_names_assign ih _ _

theorem addTokens_eq (features : Entries α) (sig : VectorSignature α) :
    addTokens text features sig = gather features (wordHits text sig) := by
  rw [addTokens, gather, wordHits, List.foldl_filter]

theorem foldl_addTokens (features : Entries α) (sigs : List (VectorSignature α)) :
    sigs.foldl (addTokens text) features = gather features (sigs.flatMap (wordHits text)) := by
  induction sigs generalizing features with
  | nil => rfl
  | cons sig sigs ih => rw [List.foldl_cons, ih, addTokens_eq, List.flatMap_cons, gather_append]

theorem addRules_eq (features : Entries α) {rules : List (TokenizerRule α)}
    (h : ∀ r ∈ rules, isReadable r.pattern = true) :
    addRules text features rules = .ok (gather features (ruleHits text rules)) := by
  induction rules generalizing features with
  | nil => rfl
  | cons r rules ih =>
    rw [List.forall_mem_cons] at h
    rw [addRules, patternMatches_eq text h.1, ruleHits, List.filter_cons]
    by_cases hempty : r.pattern = ""
    · rw [if_pos hempty, if_neg (by simp [hempty])]
      exact ih features h.2
    · rw [if_neg hempty]
      cases matchesIn text r.pattern with
      | false =>
        rw [if_neg (by simp)]
        exact ih features h.2
      | true =>
        rw [if_pos (by simp [hempty])]
        exact ih _ h.2

/-- The features of a source are gathered from the hits on it, in lower case. -/
theorem vectorize_eq {vectors : VectorDatabase α} {rules : RuleDatabase α}
    (h : ∀ r ∈ rules.allTokenizerRules ++ vectors.allTokenizerRules, isReadable r.pattern = true)
    (source : List Char) :
    vectorize vectors rules source = .ok (gather [] (hits (Text.lowercase source) vectors rules)) := by
  rw [vectorize, addRules_eq _ h, foldl_addTokens, hits, gather_append]

end Hits

attribute [local instance] Scalar.ofField

variable {K : Type} [Field K] [LinearOrder K] [IsStrictOrderedRing K]

/-! ## Order -/

/-- The weight of a feature is the sum of the weights of its hits; without one it is no feature. -/
theorem find?_gather (hits : List (String × K)) (name : String) :
    (gather [] hits).find? name = if (weightsOf name hits).isEmpty then none else some (weightsOf name hits).sum := by
  induction hits using List.reverseRecOn with
  | nil => rfl
  | append_singleton hits hit ih =>
    rw [gather_append, weightsOf_concat]
    show ((gather [] hits).change hit.1 0.0 (· + hit.2)).find? name = _
    rw [Entries.find?_change]
    by_cases hname : hit.1 = name
    · rw [if_pos hname, if_pos hname, hname, ih]
      cases weightsOf name hits with
      | nil => norm_num
      | cons w ws => simp [add_assoc]
    · rw [if_neg hname, if_neg hname, ih, List.append_nil]

/-- The order of the hits does not matter. -/
theorem find?_gather_perm {xs ys : List (String × K)} (h : xs.Perm ys) (name : String) :
    (gather [] xs).find? name = (gather [] ys).find? name := by
  have hweights : (weightsOf name xs).Perm (weightsOf name ys) := (h.filter _).map _
  rw [find?_gather, find?_gather, hweights.sum_eq, hweights.isEmpty_eq]

theorem dot_perm {names names' : List String} (h : names.Perm names') (a b : Entries K) :
    dot names a b = dot names' a b := by
  rw [dot, dot, Scalar.sum_eq, Scalar.sum_eq, (h.map _).sum_eq]

/-- The similarity with a signature depends on the weight of each feature alone. -/
theorem cosine_congr (curves : Curves K) {a b : Entries K} (ha : a.names.Nodup) (hb : b.names.Nodup)
    (h : ∀ name, a.find? name = b.find? name) (c : Entries K) : cosine curves a c = cosine curves b c := by
  have hnames : a.names.Perm b.names := by
    refine (List.perm_ext_iff_of_nodup ha hb).mpr fun name => ?_
    rw [← Entries.isSome_find?, ← Entries.isSome_find?, h]
  have hjoint : (jointNames a c).Perm (jointNames b c) := by
    simp only [jointNames, Entries.has, h]
    exact hnames.append_right _
  have hweight : weight a = weight b := by
    funext name
    rw [weight, weight, h]
  have haa : dot (jointNames a c) a a = dot (jointNames b c) b b := by
    rw [dot_perm hjoint, dot, dot, hweight]
  have hac : dot (jointNames a c) a c = dot (jointNames b c) b c := by
    rw [dot_perm hjoint, dot, dot, hweight]
  simp only [cosine, haa, hac, dot_perm hjoint c c]

theorem finding_gather_perm (curves : Curves K) {xs ys : List (String × K)} (h : xs.Perm ys) :
    finding curves (gather [] xs) = finding curves (gather [] ys) := by
  funext sig
  rw [finding, finding, cosine_congr curves (nodup_names_gather xs) (nodup_names_gather ys) (find?_gather_perm h)]

/-! ## Verdicts -/

/-- A scan gives a verdict on the findings for all signatures. A source without text has the severity zero. -/
theorem exists_scan (curves : Curves K) {vectors : VectorDatabase K} {rules : RuleDatabase K}
    (h : ∀ r ∈ rules.allTokenizerRules ++ vectors.allTokenizerRules, isReadable r.pattern = true) (topK : Int)
    (source : List Char) :
    ∃ v, scan curves vectors rules topK source = .ok v ∧ v.severity = if source.isEmpty then 0 else
      (Verdict.ofFindings topK (fun f => decide (0.15 < f.similarity)) (vectors.signatures.map
        (finding curves (gather [] (hits (Text.lowercase source) vectors rules))))).severity := by
  simp only [scan, vectorize_eq h]
  cases source.isEmpty with
  | true => exact ⟨{ severity := 0.0 }, by rw [Bool.or_true]; rfl, by norm_num⟩
  | false =>
    cases vectors.signatures with
    | nil => exact ⟨{ severity := 0.0 }, rfl, by norm_num [Verdict.severity_ofFindings_nil]⟩
    | cons sig rest => exact ⟨_, rfl, rfl⟩

end RiskGauge.VectorScan
