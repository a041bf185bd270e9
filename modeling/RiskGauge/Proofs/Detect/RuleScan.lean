import Mathlib.Algebra.BigOperators.Group.List.Basic
import Mathlib.Tactic.Ring
import RiskGauge.Detect.RuleScan
import RiskGauge.Proofs.Detect.Strongest
import RiskGauge.Proofs.Failure

/-!
# What patterns say about a source

A scan fails only for a pattern that is neither read nor malformed. Without such patterns it is said here as a total
function, for the most part over the numbers of any ordered field:

* `isReadable`, `matchesIn`: the texts that make no scan fail, and when they match;
* `RuleScan.tally`: what a scan adds up, for scalars of any kind and in the order of the scan
  (`RuleScan.rawScore_eq_tally`);
* `RuleScan.evidence`: the sum of what speaks for a signature, less what speaks against it; `RuleScan.rawScore_eq` says
  that it is what a scan computes;
* `RuleScan.exists_scan`: a scan gives a verdict on the findings for all signatures;
* `RuleScan.severity_grows`: one more signature never lowers the severity.
-/

namespace RiskGauge

/-! ## Patterns that can be read -/

/-- The text is read as a pattern, or it is malformed. -/
def isReadable (rx : String) : Bool :=
  (compilePattern rx).isOk

/-- The pattern that a text stands for; nothing for a malformed one. -/
def compiled? (rx : String) : Option Pattern :=
  (compilePattern rx).toOption.join

/-- The text stands for a pattern that matches somewhere. -/
def matchesIn (text : List Char) (rx : String) : Bool :=
  (compiled? rx).any (·.occursIn text)

theorem compilePattern_eq {rx : String} (h : isReadable rx = true) : compilePattern rx = .ok (compiled? rx) := by
  unfold isReadable at h
  unfold compiled?
  cases hrx : compilePattern rx with
  | error fault =>
    rw [hrx] at h
    cases h
  | ok p => rfl

theorem patternMatches_eq (text : List Char) {rx : String} (h : isReadable rx = true) :
    patternMatches text rx = .ok (matchesIn text rx) := by
  rw [patternMatches, compilePattern_eq h]
  rfl

theorem allMatch_eq (text : List Char) {rxs : List String} (h : ∀ rx ∈ rxs, isReadable rx = true) :
    allMatch text rxs = .ok (rxs.all (matchesIn text)) := by
  induction rxs with
  | nil => rfl
  | cons rx rxs ih =>
    rw [List.forall_mem_cons] at h
    rw [allMatch, patternMatches_eq text h.1, List.all_cons]
    cases matchesIn text rx with
    | true => exact ih h.2
    | false => rfl

theorem selectM_eq {ε α : Type} {test : α → Except ε Bool} {p : α → Bool} {xs : List α}
    (h : ∀ x ∈ xs, test x = .ok (p x)) : selectM test xs = .ok (xs.filter p) := by
  induction xs with
  | nil => rfl
  | cons x xs ih =>
    rw [List.forall_mem_cons] at h
    rw [selectM, h.1, ih h.2, List.filter_cons]
    rfl

/-- The patterns that a signature is scanned with. -/
def RuleSignature.patterns {α : Type} (sig : RuleSignature α) : List String :=
  sig.rules.map (·.pattern) ++ sig.cooccurrences.flatMap (·.patterns) ++
    sig.proximities.flatMap (fun r => [r.first, r.second]) ++ sig.negatives.map (·.pattern)

namespace RuleScan

attribute [local instance] Scalar.ofField

/-! ## Evidence -/

section Evidence

variable {α : Type} (text : List Char)

/-- The rules of a signature that match. -/
def matching (sig : RuleSignature α) : List (MatchRule α) :=
  sig.rules.filter fun r => matchesIn text r.pattern

/-- The rules of a signature whose patterns all match; a rule without patterns is none of them. -/
def matchingTogether (sig : RuleSignature α) : List (CooccurrenceRule α) :=
  sig.cooccurrences.filter fun r => !r.patterns.isEmpty && r.patterns.all (matchesIn text)

/-- The rules against a signature that match. -/
def matchingAgainst (sig : RuleSignature α) : List (NegativeRule α) :=
  sig.negatives.filter fun r => matchesIn text r.pattern

/-- How often a rule on close lines holds; never with a malformed pattern. -/
def closeCount (defaultLines : Int) (lines : List (List Char)) (rule : ProximityRule α) : Nat :=
  match compiled? rule.first, compiled? rule.second with
  | some p, some q => closeLines p q (rule.lines.getD defaultLines) lines
  | _, _ => 0

theorem selectM_together {sig : RuleSignature α}
    (h : ∀ r ∈ sig.cooccurrences, ∀ rx ∈ r.patterns, isReadable rx = true) :
    selectM (fun r => if r.patterns.isEmpty then .ok false else allMatch text r.patterns) sig.cooccurrences =
      .ok (matchingTogether text sig) := by
  refine selectM_eq fun r hr => ?_
  rw [allMatch_eq text (h r hr)]
  cases r.patterns.isEmpty <;> rfl

theorem proximityCount_eq (defaultLines : Int) (lines : List (List Char)) {rule : ProximityRule α}
    (hfirst : isReadable rule.first = true) (hsecond : isReadable rule.second = true) :
    proximityCount defaultLines lines rule = .ok (closeCount defaultLines lines rule) := by
  rw [proximityCount, compilePattern_eq hfirst, compilePattern_eq hsecond, closeCount]
  cases compiled? rule.first with
  | none => rfl
  | some p => cases compiled? rule.second <;> rfl

variable [Scalar α]

/-- What speaks for a signature, added up entry by entry, with what speaks against it taken away. -/
def tally (defaultLines : Int) (lines : List (List Char)) (sig : RuleSignature α) : α :=
  let raw := (matching text sig).foldl (fun sum r => sum + r.weight * r.rarity) 0.0
  let raw := (matchingTogether text sig).foldl (fun sum r => sum + r.bonus) raw
  let raw := sig.proximities.foldl (fun sum r => addTimes r.bonus (closeCount defaultLines lines r) sum) raw
  (matchingAgainst text sig).foldl (fun sum r => sum - r.penalty) raw

/-- The score of a signature whose patterns can be read. -/
theorem rawScore_eq_tally (defaultLines : Int) (lines : List (List Char)) {sig : RuleSignature α}
    (h : ∀ rx ∈ sig.patterns, isReadable rx = true) :
    rawScore defaultLines sig text lines =
      .ok (Scalar.greater 0.0 (tally text defaultLines lines sig), (matching text sig).map (·.label)) := by
  simp only [RuleSignature.patterns, List.forall_mem_append, List.forall_mem_map, List.forall_mem_flatMap,
    List.forall_mem_cons] at h
  obtain ⟨⟨⟨hrules, htogether⟩, hclose⟩, hagainst⟩ := h
  have hmatching := selectM_eq fun r hr => patternMatches_eq text (hrules r hr)
  have hnegatives := selectM_eq fun r hr => patternMatches_eq text (hagainst r hr)
  have hcounts : ∀ r ∈ sig.proximities,
      (do return (r.bonus, ← proximityCount defaultLines lines r) : Except Pattern.Fault (α × Nat)) =
        .ok (r.bonus, closeCount defaultLines lines r) := by
    intro r hr
    rw [proximityCount_eq defaultLines lines (hclose r hr).1 (hclose r hr).2.1]
    rfl
  rw [rawScore, hmatching, selectM_together text htogether, mapM_eq_ok_map hcounts, hnegatives]
  show Except.ok (Scalar.greater 0.0 (List.foldl _ (List.foldl _ _ (List.map _ _)) _), _) = _
  rw [List.foldl_map]
  rfl

end Evidence

variable {K : Type} [Field K] [LinearOrder K] {sig : RuleSignature K}

/-- What speaks for a signature, less what speaks against it. -/
def evidence (defaultLines : Int) (text : List Char) (lines : List (List Char)) (sig : RuleSignature K) : K :=
  ((matching text sig).map fun r => r.weight * r.rarity).sum + ((matchingTogether text sig).map (·.bonus)).sum
    + (sig.proximities.map fun r => (closeCount defaultLines lines r : K) * r.bonus).sum
    - ((matchingAgainst text sig).map (·.penalty)).sum

theorem addTimes_eq (bonus : K) (n : Nat) (x : K) : addTimes bonus n x = x + n * bonus := by
  induction n generalizing x with
  | zero => simp [addTimes]
  | succ n ih =>
    rw [addTimes, ih]
    push_cast
    ring

theorem foldl_add {β : Type} (f : β → K) (xs : List β) (start : K) :
    xs.foldl (fun sum x => sum + f x) start = start + (xs.map f).sum := by
  induction xs generalizing start with
  | nil => simp
  | cons x xs ih => rw [List.foldl_cons, ih, List.map_cons, List.sum_cons, add_assoc]

theorem foldl_sub {β : Type} (f : β → K) (xs : List β) (start : K) :
    xs.foldl (fun sum x => sum - f x) start = start - (xs.map f).sum := by
  simp only [sub_eq_add_neg]
  rw [foldl_add, List.sum_neg, List.map_map]
  rfl

variable [IsStrictOrderedRing K]

theorem tally_eq_evidence (defaultLines : Int) (text : List Char) (lines : List (List Char))
    (sig : RuleSignature K) : tally text defaultLines lines sig = evidence defaultLines text lines sig := by
  rw [tally, foldl_sub]
  simp only [addTimes_eq]
  rw [foldl_add, foldl_add, foldl_add]
  norm_num [evidence]

/-- The score of a signature is the evidence for it, but not less than zero. -/
theorem rawScore_eq (defaultLines : Int) (text : List Char) (lines : List (List Char))
    (h : ∀ rx ∈ sig.patterns, isReadable rx = true) :
    rawScore defaultLines sig text lines =
      .ok (max 0 (evidence defaultLines text lines sig), (matching text sig).map (·.label)) := by
  rw [rawScore_eq_tally text defaultLines lines h, tally_eq_evidence, Scalar.greater_eq_max]
  norm_num

/-! ## Verdicts -/

section Verdict

variable (curves : Curves K) (defaultLines : Int) (text : List Char) (lines : List (List Char))

/-- The finding for a signature whose patterns can be read. -/
def findingOf (sig : RuleSignature K) : Finding K where
  id := sig.id
  title := sig.title
  severity := severity curves sig (max 0 (evidence defaultLines text lines sig))
  raw := max 0 (evidence defaultLines text lines sig)
  similarity := 0.0
  matched := (matching text sig).map (·.label)

theorem finding_eq (h : ∀ rx ∈ sig.patterns, isReadable rx = true) :
    finding curves defaultLines text lines sig = .ok (findingOf curves defaultLines text lines sig) := by
  rw [finding, rawScore_eq defaultLines text lines h]
  rfl

theorem severity_mem (sig : RuleSignature K) (raw : K) : 0 ≤ severity curves sig raw ∧ severity curves sig raw ≤ 1 :=
  ⟨Scalar.clamp_nonneg _, Scalar.clamp_le_one _⟩

end Verdict

/-- A scan gives a verdict on the findings for all signatures. A source without text has the severity zero. -/
theorem exists_scan (curves : Curves K) (db : RuleDatabase K)
    (h : ∀ sig ∈ db.signatures, ∀ rx ∈ sig.patterns, isReadable rx = true) (defaultLines topK : Int)
    (source : List Char) :
    ∃ v, scan curves db defaultLines topK source = .ok v ∧ v.severity = if source.isEmpty then 0 else
      (Verdict.ofFindings topK (fun f => decide (0.15 < f.severity)) (db.signatures.map (findingOf curves defaultLines
        (Text.lowercase source) (Text.feedLines (Text.lowercase source))))).severity := by
  have hfindings : db.signatures.mapM (finding curves defaultLines (Text.lowercase source)
      (Text.feedLines (Text.lowercase source))) = .ok (db.signatures.map (findingOf curves defaultLines
        (Text.lowercase source) (Text.feedLines (Text.lowercase source)))) :=
    mapM_eq_ok_map fun sig hsig => finding_eq curves defaultLines _ _ (h sig hsig)
  simp only [scan, hfindings]
  cases source.isEmpty with
  | true => exact ⟨{ severity := 0.0 }, by rw [Bool.or_true]; rfl, by norm_num⟩
  | false =>
    cases db.signatures with
    | nil => exact ⟨{ severity := 0.0 }, rfl, by norm_num [Verdict.severity_ofFindings_nil]⟩
    | cons sig rest => exact ⟨_, rfl, rfl⟩

/-- One more signature never lowers the severity, wherever it stands, however many of the strongest findings count and
whatever the curves are. -/
theorem severity_grows (curves : Curves K) (db : RuleDatabase K) (before after : List (RuleSignature K))
    (sig : RuleSignature K)
    (h : ∀ s ∈ before ++ sig :: after, ∀ rx ∈ s.patterns, isReadable rx = true) (defaultLines topK : Int)
    (source : List Char) :
    ∃ smaller larger, scan curves { db with signatures := before ++ after } defaultLines topK source = .ok smaller ∧
      scan curves { db with signatures := before ++ sig :: after } defaultLines topK source = .ok larger ∧
      smaller.severity ≤ larger.severity := by
  have hfewer : ∀ s ∈ before ++ after, ∀ rx ∈ s.patterns, isReadable rx = true := by
    intro s hs
    refine h s ?_
    simp only [List.mem_append, List.mem_cons] at hs ⊢
    exact hs.imp_right .inr
  obtain ⟨smaller, hsmaller, hseverity⟩ :=
    exists_scan curves { db with signatures := before ++ after } hfewer defaultLines topK source
  obtain ⟨larger, hlarger, hseverity'⟩ :=
    exists_scan curves { db with signatures := before ++ sig :: after } h defaultLines topK source
  refine ⟨smaller, larger, hsmaller, hlarger, ?_⟩
  rw [hseverity, hseverity']
  split
  · exact le_rfl
  · rw [List.map_append, List.map_append, List.map_cons]
    refine Verdict.severity_ofFindings_insert_le topK _ _ _ fun g hg => ?_
    rw [← List.map_cons, ← List.map_append] at hg
    obtain ⟨s, -, rfl⟩ := List.mem_map.mp hg
    exact severity_mem curves s _

/-- Rational curves. -/
def plainCurves : Curves ℚ where
  exp x := if x ≤ 0 then 1 / (1 - x) else 1 + x
  log2 n := n
  sqrt x := x
  pow x _ := x

/-- A signature with a single rule. -/
def ofPattern (pattern : String) : RuleSignature ℚ where
  id := pattern
  title := ""
  baseSeverity := 1
  rules := [{ pattern := pattern, weight := 1, note := none, token := none, support := none, rarity := 1 }]
  cooccurrences := []
  proximities := []
  negatives := []
  group := none
  supportDocs := 0
  tokenizerRules := []

/-- A signature with a malformed pattern, where all findings but the weakest count. -/
theorem severity_grows_malformed :
    (∀ s ∈ [ofPattern "eval"] ++ ofPattern "(" :: [ofPattern "exec"], ∀ rx ∈ s.patterns, isReadable rx = true) ∧
      ∃ smaller larger,
        scan plainCurves { signatures := [ofPattern "eval", ofPattern "exec"] } 5 (-1) "eval(x)".toList = .ok smaller ∧
        scan plainCurves { signatures := [ofPattern "eval", ofPattern "(", ofPattern "exec"] } 5 (-1)
          "eval(x)".toList = .ok larger ∧
        smaller.severity ≤ larger.severity :=
  have hreadable : ∀ s ∈ [ofPattern "eval"] ++ ofPattern "(" :: [ofPattern "exec"], ∀ rx ∈ s.patterns,
      isReadable rx = true := by decide +kernel
  ⟨hreadable, severity_grows plainCurves {} [ofPattern "eval"] [ofPattern "exec"] (ofPattern "(") hreadable 5 (-1)
    "eval(x)".toList⟩

end RuleScan

end RiskGauge
