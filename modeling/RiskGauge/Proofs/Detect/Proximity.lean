import Mathlib.Algebra.Order.Group.Unbundled.Int
import Mathlib.Data.Finset.Card
import Mathlib.Data.Finset.Range
import RiskGauge.Proofs.Detect.RuleScan

/-!
# Lines close to each other

A rule on close lines looks, around each line that matches its first pattern, at the stretch of lines that its window
covers, cut at both ends of the source. The lines of this stretch are those at most the window away (`mem_around`),
whatever the window is: none for a negative one, all for one that is larger than the source. So the rule holds as often
as there are lines with a partner in reach (`closeCount_eq_card`), and `rawScore_counts_close_lines` says of the whole
score of a signature which sum it is.
-/

namespace RiskGauge.RuleScan

variable {α : Type}

/-! ## Windows -/

theorem mem_around {β : Type} {window : Int} {i : Nat} {xs : List β} {x : β} :
    x ∈ around window i xs ↔ ∃ j : Nat, xs[j]? = some x ∧ |(i : Int) - j| ≤ window := by
  simp only [around, List.mem_iff_getElem?, List.getElem?_drop, List.getElem?_take, abs_le]
  constructor
  · rintro ⟨k, hk⟩
    split at hk
    · rename_i hstop
      exact ⟨_, hk, by omega⟩
    · cases hk
  · rintro ⟨j, hj, hwindow⟩
    have hlt : j < xs.length := (List.getElem?_eq_some_iff.mp hj).1
    refine ⟨j - (max 0 ((i : Int) - window)).toNat, ?_⟩
    have hplace : (max 0 ((i : Int) - window)).toNat + (j - (max 0 ((i : Int) - window)).toNat) = j := by omega
    rw [hplace, if_pos (by omega), hj]

/-- Counting items with their places is counting places. -/
theorem countP_zipIdx {β : Type} (p : β × Nat → Bool) (xs : List β) :
    xs.zipIdx.countP p = {i ∈ Finset.range xs.length | xs[i]?.any (fun x => p (x, i)) = true}.card := by
  have hplaces : xs.zipIdx.countP p = xs.zipIdx.countP ((fun i => xs[i]?.any fun x => p (x, i)) ∘ Prod.snd) := by
    refine List.countP_congr fun e he => ?_
    rw [Function.comp_apply, List.mem_zipIdx_iff_getElem?.mp he, Option.any_some]
  have hrange : Finset.range xs.length = (List.range xs.length).toFinset := by
    ext i
    simp
  rw [hplaces, ← List.countP_map, List.zipIdx_map_snd, ← List.range_eq_range', hrange,
    List.nodup_range.card_eq_countP]
  simp

/-- The numbers of the lines that match a pattern; none for a malformed one. -/
def matchingLines (lines : List (List Char)) (rx : String) : Finset Nat :=
  {i ∈ Finset.range lines.length | lines[i]?.any (matchesIn · rx) = true}

/-- The numbers of the lines that match the first pattern of a rule, with a line that matches the second one at most
`window` lines away. -/
def linesInReach (window : Int) (lines : List (List Char)) (rule : ProximityRule α) : Finset Nat :=
  (matchingLines lines rule.first).filter fun i => ∃ j ∈ matchingLines lines rule.second, |(i : Int) - j| ≤ window

theorem mem_matchingLines {lines : List (List Char)} {rx : String} {i : Nat} :
    i ∈ matchingLines lines rx ↔ ∃ line, lines[i]? = some line ∧ matchesIn line rx = true := by
  simp only [matchingLines, Finset.mem_filter, Finset.mem_range, Option.any_eq_true]
  refine and_iff_right_of_imp ?_
  rintro ⟨line, hline, -⟩
  exact (List.getElem?_eq_some_iff.mp hline).1

theorem matchingLines_of_malformed (lines : List (List Char)) {rx : String} (h : compiled? rx = none) :
    matchingLines lines rx = ∅ := by
  refine Finset.eq_empty_of_forall_notMem fun i hi => ?_
  obtain ⟨line, -, hmatch⟩ := mem_matchingLines.mp hi
  simp [matchesIn, h] at hmatch

/-- A window holds a line that matches a pattern if there is one at most the window away. -/
theorem any_around {window : Int} {i : Nat} {lines : List (List Char)} {rx : String} {q : Pattern}
    (hq : compiled? rx = some q) :
    (around window i (lines.map q.occursIn)).any id = true ↔
      ∃ j ∈ matchingLines lines rx, |(i : Int) - j| ≤ window := by
  have hmatch : ∀ line, matchesIn line rx = q.occursIn line := fun line => by rw [matchesIn, hq, Option.any_some]
  simp only [List.any_eq_true, id_eq, exists_eq_right, mem_around, mem_matchingLines, hmatch, List.getElem?_map,
    Option.map_eq_some_iff]

theorem closeLines_eq_card {rule : ProximityRule α} {p q : Pattern} (hp : compiled? rule.first = some p)
    (hq : compiled? rule.second = some q) (window : Int) (lines : List (List Char)) :
    closeLines p q window lines = (linesInReach window lines rule).card := by
  have hmatch : ∀ line, matchesIn line rule.first = p.occursIn line := fun line => by
    rw [matchesIn, hp, Option.any_some]
  rw [closeLines, countP_zipIdx]
  congr 1
  ext i
  rw [linesInReach, Finset.mem_filter, Finset.mem_filter, Finset.mem_range, ← any_around hq, mem_matchingLines,
    Option.any_eq_true]
  simp only [hmatch, Bool.and_eq_true]
  constructor
  · rintro ⟨-, line, hline, hfirst, hreach⟩
    exact ⟨⟨line, hline, hfirst⟩, hreach⟩
  · rintro ⟨⟨line, hline, hfirst⟩, hreach⟩
    exact ⟨(List.getElem?_eq_some_iff.mp hline).1, line, hline, hfirst, hreach⟩

/-- A rule on close lines holds once for each line that has a partner in reach, however many partners it has. -/
theorem closeCount_eq_card (defaultLines : Int) (lines : List (List Char)) (rule : ProximityRule α) :
    closeCount defaultLines lines rule = (linesInReach (rule.lines.getD defaultLines) lines rule).card := by
  rw [closeCount]
  cases hp : compiled? rule.first with
  | none => simp [linesInReach, matchingLines_of_malformed lines hp]
  | some p =>
    cases hq : compiled? rule.second with
    | none => simp [linesInReach, matchingLines_of_malformed lines hq]
    | some q => exact closeLines_eq_card hp hq _ lines

/-! ## Scores -/

attribute [local instance] Scalar.ofField

variable {K : Type} [Field K] [LinearOrder K] [IsStrictOrderedRing K]

/-- The score of a signature adds up the rules that match, the rules that match together and, for each rule on close
lines, its bonus as often as there are lines with a partner in reach; it takes away the rules against the signature
that match, and is not less than zero. -/
theorem rawScore_counts_close_lines {sig : RuleSignature K} (h : ∀ rx ∈ sig.patterns, isReadable rx = true)
    (defaultLines : Int) (text : List Char) (lines : List (List Char)) :
    rawScore defaultLines sig text lines = .ok (max 0
      (((matching text sig).map fun r => r.weight * r.rarity).sum
        + ((matchingTogether text sig).map fun r => r.bonus).sum
        + (sig.proximities.map fun r => ((linesInReach (r.lines.getD defaultLines) lines r).card : K) * r.bonus).sum
        - ((matchingAgainst text sig).map fun r => r.penalty).sum),
      (matching text sig).map fun r => r.label) := by
  rw [rawScore_eq defaultLines text lines h, evidence]
  simp only [closeCount_eq_card]

/-- A signature with entries of all kinds, some of them malformed and one without patterns. -/
def callSignature : RuleSignature ℚ where
  id := "call"
  title := ""
  baseSeverity := 1
  rules := ["eval", "("].map fun rx =>
    { pattern := rx, weight := 2, note := none, token := none, support := none, rarity := 3 }
  cooccurrences := [["eval", "query"], ["eval", "("], []].map fun rxs => { patterns := rxs, bonus := 1 / 2 }
  proximities := [("eval", some 1), ("eval", some (-1)), ("eval", none), ("(", none)].map fun (rx, window) =>
    { first := rx, second := "query", lines := window, bonus := 10 }
  negatives := ["safe", "["].map fun rx => { pattern := rx, penalty := 4, note := none }
  group := none
  supportDocs := 0
  tokenizerRules := []

/-- Windows of one line and of a hundred lines reach from the second and from both calls to the query, a negative
window reaches nowhere, and malformed patterns add nothing. -/
theorem callSignature_rawScore :
    (∀ rx ∈ callSignature.patterns, isReadable rx = true) ∧
      rawScore 100 callSignature "eval\n\neval\nquery".toList (["eval", "", "eval", "query"].map (·.toList)) =
        .ok (73 / 2, ["eval"]) := by
  have hreadable : ∀ rx ∈ callSignature.patterns, isReadable rx = true := by decide +kernel
  refine ⟨hreadable, (rawScore_counts_close_lines hreadable _ _ _).trans ?_⟩
  decide +kernel

end RiskGauge.RuleScan
