import Mathlib.Algebra.BigOperators.Ring.List
import Mathlib.Tactic.Ring
import RiskGauge.Proofs.Detect.Order

/-!
# Combined severities

Severities are combined as the probabilities of independent events. Over the numbers of any ordered field, and for
severities from zero to one, the cut to this range at the end changes nothing, and the combination is one minus the
product of what the severities lack to one (`either_eq_of_mem`). From this follow its bounds (`le_either`,
`either_le_sum`), when it is one or zero (`either_eq_one_iff`, `either_eq_zero_iff`), and that the severity of a scan is
not below that of either of its verdicts (`Scanner.severities_combine`).
-/

namespace RiskGauge

attribute [local instance] Scalar.ofField

variable {K : Type} [Field K] [LinearOrder K] [IsStrictOrderedRing K]

namespace Verdict

variable {xs ys : List K} {x : K}

/-- The combination of severities from zero to one is not cut. -/
theorem either_eq_of_mem (h : ∀ x ∈ xs, 0 ≤ x ∧ x ≤ 1) : either xs = 1 - (xs.map (1 - ·)).prod := by
  have hnonneg := prod_complement_nonneg fun x hx => (h x hx).2
  have hle : (xs.map (1 - ·)).prod ≤ 1 := prod_complement_anti .nil h
  rw [either_eq, Scalar.clamp_of_mem (sub_nonneg.mpr hle) (sub_le_self 1 hnonneg)]

theorem either_mem (xs : List K) : 0 ≤ either xs ∧ either xs ≤ 1 :=
  ⟨Scalar.clamp_nonneg _, Scalar.clamp_le_one _⟩

theorem either_perm (h : ys.Perm xs) : either ys = either xs := by
  rw [either_eq, either_eq, (h.map _).prod_eq]

theorem le_either (h : ∀ x ∈ xs, 0 ≤ x ∧ x ≤ 1) (hx : x ∈ xs) : x ≤ either xs := by
  have hsub : List.SublistForall₂ (· ≤ ·) [x] xs :=
    List.sublistForall₂_iff.mpr ⟨[x], .cons le_rfl .nil, List.singleton_sublist.mpr hx⟩
  calc
    x = either [x] := by
      rw [either_eq_of_mem fun y hy => List.mem_singleton.mp hy ▸ h x hx]
      simp
    _ ≤ either xs := either_mono hsub h

/-- What severities lack to one makes a product of at least what their sum lacks to one. -/
theorem one_sub_sum_le_prod (h : ∀ x ∈ xs, 0 ≤ x ∧ x ≤ 1) : 1 - xs.sum ≤ (xs.map (1 - ·)).prod := by
  induction xs with
  | nil => simp
  | cons x xs ih =>
    rw [List.forall_mem_cons] at h
    have hle : (xs.map (1 - ·)).prod ≤ 1 := prod_complement_anti .nil h.2
    calc
      1 - (x :: xs).sum = 1 - xs.sum - x := by rw [List.sum_cons]; ring
      _ ≤ (xs.map (1 - ·)).prod - x := sub_le_sub_right (ih h.2) x
      _ ≤ (xs.map (1 - ·)).prod - x * (xs.map (1 - ·)).prod := sub_le_sub_left (mul_le_of_le_one_right h.1.1 hle) _
      _ = ((x :: xs).map (1 - ·)).prod := by rw [List.map_cons, List.prod_cons]; ring

theorem either_le_sum (h : ∀ x ∈ xs, 0 ≤ x ∧ x ≤ 1) : either xs ≤ xs.sum := by
  rw [either_eq_of_mem h]
  exact sub_le_comm.mp (one_sub_sum_le_prod h)

theorem either_eq_one_iff (h : ∀ x ∈ xs, 0 ≤ x ∧ x ≤ 1) : either xs = 1 ↔ 1 ∈ xs := by
  rw [either_eq_of_mem h, sub_eq_self, List.prod_eq_zero_iff, List.mem_map]
  simp [sub_eq_zero]

theorem either_eq_zero_iff (h : ∀ x ∈ xs, 0 ≤ x ∧ x ≤ 1) : either xs = 0 ↔ ∀ x ∈ xs, x = 0 := by
  constructor
  · intro hzero x hx
    exact le_antisymm (hzero ▸ le_either h hx) (h x hx).1
  · intro hall
    have hsum : xs.sum = 0 := List.sum_eq_zero hall
    exact le_antisymm (hsum ▸ either_le_sum h) (either_mem xs).1

/-- What holds of the combination of severities from zero to one. -/
structure Combined (xs : List K) : Prop where
  eq_one_sub_prod : either xs = 1 - (xs.map (1 - ·)).prod
  perm : ∀ ys, ys.Perm xs → either ys = either xs
  /-- Fewer and smaller severities give less. -/
  mono : ∀ ys, List.SublistForall₂ (· ≤ ·) ys xs → either ys ≤ either xs
  ge_each : ∀ x ∈ xs, x ≤ either xs
  le_min : either xs ≤ min 1 xs.sum
  eq_one_iff : either xs = 1 ↔ 1 ∈ xs
  eq_zero_iff : either xs = 0 ↔ ∀ x ∈ xs, x = 0

theorem combined (h : ∀ x ∈ xs, 0 ≤ x ∧ x ≤ 1) : Combined xs where
  eq_one_sub_prod := either_eq_of_mem h
  perm _ := either_perm
  mono _ hys := either_mono hys h
  ge_each _ := le_either h
  le_min := le_min (either_mem xs).2 (either_le_sum h)
  eq_one_iff := either_eq_one_iff h
  eq_zero_iff := either_eq_zero_iff h

end Verdict

/-! ## The severity of a scan -/

/-- A verdict that is zero from the start or made of findings has a severity from zero to one. -/
theorem Verdict.severity_mem_of_ok {ε β : Type} {c : Prop} [Decidable c] {x : Except ε β} {topK : Int}
    {reported : Finding K → Bool} {findings : β → List (Finding K)} {v : Verdict K}
    (h : (if c then pure { severity := 0.0 } else x >>= fun b => pure (ofFindings topK reported (findings b))) = .ok v) :
    0 ≤ v.severity ∧ v.severity ≤ 1 := by
  split at h
  · obtain rfl := pure_eq_ok.mp h
    norm_num
  · obtain ⟨b, -, h⟩ := bind_eq_ok.mp h
    obtain rfl := pure_eq_ok.mp h
    exact either_mem _

theorem RuleScan.severity_mem_of_scan {curves : Curves K} {db : RuleDatabase K} {defaultLines topK : Int}
    {source : List Char} {v : Verdict K} (h : scan curves db defaultLines topK source = .ok v) :
    0 ≤ v.severity ∧ v.severity ≤ 1 :=
  Verdict.severity_mem_of_ok h

theorem VectorScan.severity_mem_of_scan {curves : Curves K} {vectors : VectorDatabase K} {rules : RuleDatabase K}
    {topK : Int} {source : List Char} {v : Verdict K} (h : scan curves vectors rules topK source = .ok v) :
    0 ≤ v.severity ∧ v.severity ≤ 1 :=
  Verdict.severity_mem_of_ok h

namespace Scanner

variable {s : Scanner K}

theorem exists_scan (h : ∀ rx ∈ s.patterns, isReadable rx = true) (curves : Curves K) (source : List Char) :
    ∃ d, s.scan curves source = .ok d := by
  simp only [patterns, List.forall_mem_append, List.forall_mem_flatMap, List.forall_mem_map] at h
  obtain ⟨v, hv, -⟩ := RuleScan.exists_scan curves s.rules h.1 s.proximityLines s.topK source
  obtain ⟨w, hw, -⟩ := VectorScan.exists_scan curves h.2 s.topK source
  simp only [scan, hv, hw]
  exact exists_pure_ok _

theorem scan_severity {curves : Curves K} {source : List Char} {d : Dependability K}
    (h : s.scan curves source = .ok d) :
    Verdict.Combined [d.ruleVerdict.severity, d.vectorVerdict.severity] ∧
      d.severity = Verdict.either [d.ruleVerdict.severity, d.vectorVerdict.severity] := by
  obtain ⟨v, hv, h⟩ := bind_eq_ok.mp h
  obtain ⟨w, hw, h⟩ := bind_eq_ok.mp h
  obtain rfl := pure_eq_ok.mp h
  refine ⟨Verdict.combined ?_, rfl⟩
  rw [List.forall_mem_cons, List.forall_mem_singleton]
  exact ⟨RuleScan.severity_mem_of_scan hv, VectorScan.severity_mem_of_scan hw⟩

/-- Severities combine as the probabilities of independent events do, and a scan is at least as severe as each of its
verdicts. -/
theorem severities_combine (curves : Curves K) (s : Scanner K) (source : List Char) :
    (∀ xs : List K, (∀ x ∈ xs, 0 ≤ x ∧ x ≤ 1) → Verdict.Combined xs) ∧
    ((∀ rx ∈ s.patterns, isReadable rx = true) → ∃ d, s.scan curves source = .ok d) ∧
    ∀ d, s.scan curves source = .ok d →
      d.severity = 1 - (1 - d.ruleVerdict.severity) * (1 - d.vectorVerdict.severity) ∧
      d.ruleVerdict.severity ≤ d.severity ∧ d.vectorVerdict.severity ≤ d.severity := by
  refine ⟨fun _ => Verdict.combined, fun h => exists_scan h curves source, fun d hd => ?_⟩
  obtain ⟨hcombined, hseverity⟩ := scan_severity hd
  rw [hseverity]
  refine ⟨?_, hcombined.ge_each _ (by simp), hcombined.ge_each _ (by simp)⟩
  rw [hcombined.eq_one_sub_prod]
  simp

/-- Three severities of which one is zero, and a scan with two databases. -/
theorem severities_combine_callScanner :
    (∀ x ∈ [1 / 2, 1 / 4, (0 : ℚ)], 0 ≤ x ∧ x ≤ 1) ∧ Verdict.Combined [1 / 2, 1 / 4, (0 : ℚ)] ∧
      (∀ rx ∈ callScanner.patterns, isReadable rx = true) ∧
      ∃ d, callScanner.scan RuleScan.plainCurves "eval(x)".toList = .ok d ∧
        d.severity = 1 - (1 - d.ruleVerdict.severity) * (1 - d.vectorVerdict.severity) ∧
        d.ruleVerdict.severity ≤ d.severity ∧ d.vectorVerdict.severity ≤ d.severity := by
  have hreadable : ∀ rx ∈ callScanner.patterns, isReadable rx = true := by decide +kernel
  have hrange : ∀ x ∈ [1 / 2, 1 / 4, (0 : ℚ)], 0 ≤ x ∧ x ≤ 1 := by norm_num
  obtain ⟨hcombined, hscan, hall⟩ := severities_combine RuleScan.plainCurves callScanner "eval(x)".toList
  obtain ⟨d, hd⟩ := hscan hreadable
  exact ⟨hrange, hcombined _ hrange, hreadable, d, hd, hall d hd⟩

end Scanner

end RiskGauge
