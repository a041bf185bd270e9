import Mathlib.Data.List.Nodup
import RiskGauge.Proofs.Detect.Combined
import RiskGauge.Proofs.Detect.Cosine

/-!
# Reported findings

A verdict reports the strongest of the findings that pass a test, at most five. `Verdict.Strongest` says at which
places of the list of all findings the reported ones stand, and that what passes the test and is not reported comes
behind five reported ones. The ranking is stable, so findings of equal severity are reported in the order of their
places (`Verdict.pairwise_ranksBefore`). `Scanner.strongest_reported` says it of both ways to look for vulnerabilities.
A source without text is not looked at, and nothing is reported for it (`Scanner.empty_source_unreported`).
-/

namespace RiskGauge

attribute [local instance] Scalar.ofField

variable {K : Type} [Field K] [LinearOrder K]

namespace Verdict

/-! ## Places in the ranking -/

/-- A finding with its place ranks before another one: it is more severe, or as severe and at an earlier place. -/
def RanksBefore (a b : Finding K × Nat) : Prop :=
  b.1.severity < a.1.severity ∨ b.1.severity = a.1.severity ∧ a.2 < b.2

/-- The findings with their places by falling severity. -/
def rankedPlaces (findings : List (Finding K)) : List (Finding K × Nat) :=
  findings.zipIdx.mergeSort (List.zipIdxLE fun a b => decide (b.severity ≤ a.severity))

theorem map_fst_rankedPlaces (findings : List (Finding K)) : (rankedPlaces findings).map (·.1) = ranked findings :=
  List.mergeSort_zipIdx

theorem mem_rankedPlaces {findings : List (Finding K)} {a : Finding K × Nat} :
    a ∈ rankedPlaces findings ↔ findings[a.2]? = some a.1 := by
  rw [rankedPlaces, List.mem_mergeSort, List.mem_zipIdx_iff_getElem?]

theorem nodup_places (findings : List (Finding K)) : ((rankedPlaces findings).map (·.2)).Nodup := by
  have hperm : ((rankedPlaces findings).map (·.2)).Perm (findings.zipIdx.map (·.2)) :=
    (List.mergeSort_perm findings.zipIdx _).map _
  rw [hperm.nodup_iff]
  simpa using List.nodup_range'

/-- Of findings of equal severity the one at the earlier place comes first. -/
theorem pairwise_ranksBefore (findings : List (Finding K)) : (rankedPlaces findings).Pairwise RanksBefore := by
  have hsorted : (rankedPlaces findings).Pairwise fun a b =>
      List.zipIdxLE (fun a b : Finding K => decide (b.severity ≤ a.severity)) a b = true := by
    refine List.pairwise_mergeSort (List.zipIdxLE_trans ?_) (List.zipIdxLE_total ?_) _
    · intro a b c hab hbc
      simp only [decide_eq_true_eq] at hab hbc ⊢
      exact hbc.trans hab
    · intro a b
      simp [le_total]
  have hplaces := List.pairwise_map.mp (nodup_places findings)
  refine (hsorted.and hplaces).imp fun {a b} h => ?_
  obtain ⟨hle, hne⟩ := h
  simp only [List.zipIdxLE, decide_eq_true_eq] at hle
  split at hle
  · rename_i hba
    split at hle
    · rename_i hab
      exact .inr ⟨le_antisymm hba hab, lt_of_le_of_ne (of_decide_eq_true hle) hne⟩
    · rename_i hab
      exact .inl (not_le.mp hab)
  · cases hle

/-! ## Reports -/

/-- The findings of a list that are reported, with their places in it. -/
structure Strongest (passes : Finding K → Bool) (findings : List (Finding K)) (picked : List (Finding K × Nat)) :
    Prop where
  placed : ∀ a ∈ picked, findings[a.2]? = some a.1
  nodup_places : (picked.map (·.2)).Nodup
  length_le : picked.length ≤ 5
  passing : ∀ a ∈ picked, passes a.1 = true
  /-- They come by falling severity, and those of equal severity in the order of their places. -/
  in_order : picked.Pairwise RanksBefore
  /-- What passes and is not reported ranks behind five findings that are. -/
  complete : ∀ a : Finding K × Nat, findings[a.2]? = some a.1 → passes a.1 = true → a ∉ picked →
    picked.length = 5 ∧ ∀ b ∈ picked, RanksBefore b a

/-- The findings that pass a test, with their places, by falling severity. -/
def passingPlaces (passes : Finding K → Bool) (findings : List (Finding K)) : List (Finding K × Nat) :=
  (rankedPlaces findings).filter fun a => passes a.1

theorem mem_passingPlaces {passes : Finding K → Bool} {findings : List (Finding K)} {a : Finding K × Nat} :
    a ∈ passingPlaces passes findings ↔ findings[a.2]? = some a.1 ∧ passes a.1 = true := by
  rw [passingPlaces, List.mem_filter, mem_rankedPlaces]

theorem findings_ofFindings (k : Int) (passes : Finding K → Bool) (findings : List (Finding K)) :
    (ofFindings k passes findings).findings = ((passingPlaces passes findings).take reportLimit).map (·.1) := by
  rw [ofFindings, passingPlaces, List.map_take, ← map_fst_rankedPlaces, List.filter_map]
  rfl

/-- What stands behind a cut comes after everything in front of it, and there the list is not shorter than the cut. -/
theorem full_of_not_mem_take {β : Type} {R : β → β → Prop} {xs : List β} (h : xs.Pairwise R) {n : Nat} {a : β}
    (ha : a ∈ xs) (hcut : a ∉ xs.take n) : (xs.take n).length = n ∧ ∀ b ∈ xs.take n, R b a := by
  rw [← List.take_append_drop n xs] at h ha
  have hbehind : a ∈ xs.drop n := (List.mem_append.mp ha).resolve_left hcut
  have hlong := List.length_pos_of_mem hbehind
  rw [List.length_drop] at hlong
  exact ⟨List.length_take_of_le (by omega), fun b hb => (List.pairwise_append.mp h).2.2 b hb a hbehind⟩

theorem strongest_take (passes : Finding K → Bool) (findings : List (Finding K)) :
    Strongest passes findings ((passingPlaces passes findings).take reportLimit) := by
  have hmem : ∀ a ∈ (passingPlaces passes findings).take reportLimit,
      findings[a.2]? = some a.1 ∧ passes a.1 = true := fun a ha => mem_passingPlaces.mp (List.mem_of_mem_take ha)
  have hsublist : ((passingPlaces passes findings).take reportLimit).Sublist (rankedPlaces findings) :=
    (List.take_sublist _ _).trans List.filter_sublist
  exact {
    placed a ha := (hmem a ha).1
    nodup_places := (nodup_places findings).sublist (hsublist.map _)
    length_le := List.length_take_le _ _
    passing a ha := (hmem a ha).2
    in_order := (pairwise_ranksBefore findings).sublist hsublist
    complete _ hplaced hpasses hpicked := full_of_not_mem_take ((pairwise_ranksBefore findings).filter _)
      (mem_passingPlaces.mpr ⟨hplaced, hpasses⟩) hpicked }

/-- A report on signatures that have one finding each: the strongest of these findings. -/
def Reports {σ : Type} (finds : σ → Finding K → Prop) (passes : Finding K → Bool) (sigs : List σ)
    (report : List (Finding K)) : Prop :=
  ∃ findings picked, List.Forall₂ finds sigs findings ∧ Strongest passes findings picked ∧
    report = picked.map (·.1)

theorem reports_ofFindings {σ : Type} {finds : σ → Finding K → Prop} {sigs : List σ} {findings : List (Finding K)}
    (h : List.Forall₂ finds sigs findings) (k : Int) (passes : Finding K → Bool) :
    Reports finds passes sigs (ofFindings k passes findings).findings :=
  ⟨findings, _, h, strongest_take passes findings, findings_ofFindings k passes findings⟩

theorem reports_nil {σ : Type} (finds : σ → Finding K → Prop) (passes : Finding K → Bool) :
    Reports finds passes [] [] := by
  have hnone : (ofFindings 0 passes []).findings = [] := by simp [findings_ofFindings, passingPlaces, rankedPlaces]
  exact hnone ▸ reports_ofFindings .nil 0 passes

/-- A verdict that is zero where there is no signature or no text, and made of the findings for the signatures
elsewhere. -/
theorem reports_of_ok {ε β σ : Type} {finds : σ → Finding K → Prop} {passes : Finding K → Bool} {sigs : List σ}
    {source : List Char} {x : Except ε β} {topK : Int} {findings : β → List (Finding K)} {v : Verdict K}
    (hfinds : ∀ b, x = .ok b → List.Forall₂ finds sigs (findings b))
    (h : (if sigs.isEmpty || source.isEmpty then pure { severity := 0.0 } else
      x >>= fun b => pure (ofFindings topK passes (findings b))) = .ok v) :
    if source = [] then v.findings = [] else Reports finds passes sigs v.findings := by
  split at h
  · rename_i hempty
    obtain rfl := pure_eq_ok.mp h
    split
    · rfl
    · rename_i hsource
      obtain rfl : sigs = [] := by simpa [hsource] using hempty
      exact reports_nil finds passes
  · rename_i hnonempty
    have hsource : source ≠ [] := fun hsource => hnonempty (by simp [hsource])
    obtain ⟨b, hb, h⟩ := bind_eq_ok.mp h
    obtain rfl := pure_eq_ok.mp h
    rw [if_neg hsource]
    exact reports_ofFindings (hfinds b hb) topK passes

end Verdict

/-! ## Scans -/

/-- The finding for a signature in a source. -/
def RuleScan.Finds (curves : Curves K) (defaultLines : Int) (source : List Char) (sig : RuleSignature K)
    (f : Finding K) : Prop :=
  finding curves defaultLines (Text.lowercase source) (Text.feedLines (Text.lowercase source)) sig = .ok f

/-- The finding for a signature in a source. -/
def VectorScan.Finds (curves : Curves K) (vectors : VectorDatabase K) (rules : RuleDatabase K) (source : List Char)
    (sig : VectorSignature K) (f : Finding K) : Prop :=
  ∃ features, vectorize vectors rules source = .ok features ∧ finding curves features sig = f

namespace Scanner

/-- Both ways to look for vulnerabilities report the strongest findings for a source with text, and none for a source
without. -/
theorem strongest_reported (curves : Curves K) (s : Scanner K) (source : List Char) :
    (∀ v, RuleScan.scan curves s.rules s.proximityLines s.topK source = .ok v →
      if source = [] then v.findings = [] else
        Verdict.Reports (RuleScan.Finds curves s.proximityLines source) (fun f => decide (0.15 < f.severity))
          s.rules.signatures v.findings) ∧
    ∀ v, VectorScan.scan curves s.vectors s.rules s.topK source = .ok v →
      if source = [] then v.findings = [] else
        Verdict.Reports (VectorScan.Finds curves s.vectors s.rules source) (fun f => decide (0.15 < f.similarity))
          s.vectors.signatures v.findings := by
  constructor
  · intro v hv
    exact Verdict.reports_of_ok (fun _ hfindings => forall₂_of_mapM_ok hfindings) hv
  · intro v hv
    refine Verdict.reports_of_ok (fun features hfeatures => ?_) hv
    exact List.forall₂_map_right_iff.mpr (List.forall₂_same.mpr fun sig _ => ⟨features, hfeatures, rfl⟩)

/-- Two databases of which some patterns are malformed. -/
theorem callScanner_strongest_reported :
    (∃ v, RuleScan.scan RuleScan.plainCurves callScanner.rules callScanner.proximityLines callScanner.topK
        "eval(x)".toList = .ok v ∧
      Verdict.Reports (RuleScan.Finds RuleScan.plainCurves callScanner.proximityLines "eval(x)".toList)
        (fun f => decide (0.15 < f.severity)) callScanner.rules.signatures v.findings) ∧
    ∃ v, VectorScan.scan RuleScan.plainCurves callScanner.vectors callScanner.rules callScanner.topK
        "eval(x)".toList = .ok v ∧
      Verdict.Reports (VectorScan.Finds RuleScan.plainCurves callScanner.vectors callScanner.rules "eval(x)".toList)
        (fun f => decide (0.15 < f.similarity)) callScanner.vectors.signatures v.findings := by
  have hreadable : ∀ rx ∈ callScanner.patterns, isReadable rx = true := by decide +kernel
  simp only [patterns, List.forall_mem_append, List.forall_mem_flatMap, List.forall_mem_map] at hreadable
  obtain ⟨v, hv, -⟩ := RuleScan.exists_scan RuleScan.plainCurves callScanner.rules hreadable.1
    callScanner.proximityLines callScanner.topK "eval(x)".toList
  obtain ⟨w, hw, -⟩ := VectorScan.exists_scan RuleScan.plainCurves hreadable.2 callScanner.topK "eval(x)".toList
  obtain ⟨hrules, hvectors⟩ := strongest_reported RuleScan.plainCurves callScanner "eval(x)".toList
  have hsource : "eval(x)".toList ≠ [] := by decide
  have hv' := hrules v hv
  have hw' := hvectors w hw
  rw [if_neg hsource] at hv' hw'
  exact ⟨⟨v, hv, hv'⟩, w, hw, hw'⟩

/-- A signature with a feature that sources of blanks alone have. -/
noncomputable def blankSignature : VectorSignature ℝ where
  id := "blank"
  title := ""
  tokens := [("blank", 1)]
  baseSeverity := 0.7
  notes := ""
  tokenRules := [⟨some "blank", "^\\s*$", 1⟩]

theorem vectorize_blankSignature :
    VectorScan.vectorize { signatures := [blankSignature] } {} [] = .ok blankSignature.tokens := by
  have hreadable : isReadable "^\\s*$" = true := by decide +kernel
  have hmatches : matchesIn [] "^\\s*$" = true := by decide +kernel
  have hword : (VectorScan.occurrence "blank").occursIn [] = false := by decide +kernel
  have hhits : VectorScan.hits [] { signatures := [blankSignature] } {} = [("blank", 1)] := by
    simp [VectorScan.hits, VectorScan.wordHits, VectorScan.ruleHits, RuleDatabase.allTokenizerRules,
      VectorDatabase.allTokenizerRules, blankSignature, TokenizerRule.feature, hword, hmatches]
  rw [VectorScan.vectorize_eq (by simp [RuleDatabase.allTokenizerRules, VectorDatabase.allTokenizerRules,
    blankSignature, hreadable])]
  show Except.ok (VectorScan.gather [] (VectorScan.hits [] _ _)) = _
  rw [hhits]
  norm_num [VectorScan.gather, Entries.change, Entries.assign, Entries.find?, blankSignature]

/-- A source without text can be as similar to a signature as can be, and nothing is reported for it. -/
theorem empty_source_unreported :
    ∃ v f, VectorScan.scan Curves.real { signatures := [blankSignature] } {} 3 [] = .ok v ∧
      VectorScan.Finds Curves.real { signatures := [blankSignature] } {} [] blankSignature f ∧ f.similarity = 1 ∧
      v.findings = [] ∧
      ¬ Verdict.Reports (VectorScan.Finds Curves.real { signatures := [blankSignature] } {} [])
        (fun f => decide (0.15 < f.similarity)) [blankSignature] v.findings := by
  have hsimilarity : (VectorScan.finding Curves.real blankSignature.tokens blankSignature).similarity = 1 :=
    VectorScan.cosine_self Curves.real_exactRoot (by simp [blankSignature, Entries.names])
      ⟨("blank", 1), List.mem_singleton.mpr rfl, one_ne_zero⟩
  refine ⟨{ severity := 0.0 }, _, rfl, ⟨_, vectorize_blankSignature, rfl⟩, hsimilarity, rfl, ?_⟩
  rintro ⟨findings, picked, hfinds, hstrongest, hpicked⟩
  obtain rfl : picked = [] := List.map_eq_nil_iff.mp hpicked.symm
  -- The only finding passes the test, so it could be missing from a full report alone.
  obtain ⟨f, rest, ⟨features, hfeatures, rfl⟩, -, rfl⟩ := List.forall₂_cons_left_iff.mp hfinds
  obtain rfl := Except.ok.inj (hfeatures.symm.trans vectorize_blankSignature)
  have hpasses : (0.15 : ℝ) < (VectorScan.finding Curves.real blankSignature.tokens blankSignature).similarity := by
    rw [hsimilarity]
    norm_num
  cases (hstrongest.complete (_, 0) rfl (decide_eq_true hpasses) List.not_mem_nil).1

end Scanner

end RiskGauge
