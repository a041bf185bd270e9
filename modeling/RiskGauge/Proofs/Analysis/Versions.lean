import RiskGauge.Analysis.Analyzer
import RiskGauge.Proofs.Failure
import RiskGauge.Proofs.Graph.Change

/-!
# Earlier versions of a source

An analysis asks for the earlier version of a source in three places: for the declarations that it had, for the
nodes of the graph that it leaves unchanged, and for its lines. In the first two a blank version counts as none
(`Source.apiDiff_blank_before`, `Source.impact?_blank_before`); only its lines are told apart from an estimate.
-/

namespace RiskGauge

variable {before : List Char}

theorem Api.signatures_of_blank (reader : SourceReader) (grammar : Grammar) (h : Text.isBlankText before = true) :
    Api.signatures reader grammar before = [] := by
  rw [signatures, if_pos h]

namespace Source

theorem tag_before (s : Source) (before : Option (List Char)) : tag { s with before } = s.tag := rfl

theorem apiDiff_blank_before (reader : SourceReader) (s : Source) (h : Text.isBlankText before = true) :
    apiDiff reader { s with before := some before } = apiDiff reader { s with before := none } := by
  simp only [apiDiff, tag_before, Api.signatures_of_blank reader _ h]

theorem impact?_blank_before (reader : SourceReader) (unit : String) (s : Source)
    (h : Text.isBlankText before = true) :
    impact? reader unit { s with before := some before } = impact? reader unit { s with before := none } := by
  by_cases hgraph : Tag.hasGraph s.tag
  · simp only [impact?, tag_before, hgraph, if_true, CallGraph.build_blank_before reader unit _ _ h]
  · simp only [impact?, tag_before, hgraph, if_false, Bool.false_eq_true]

end Source

namespace Analyzer

/-- With a blank earlier version, the lines are all that is counted in another way. -/
theorem metricsOf_blank_before (a : Analyzer) (s : Source) (resource : Resource.Signals)
    (security : Dependability Float) (h : Text.isBlankText before = true) :
    a.metricsOf { s with before := some before } resource security =
      { a.metricsOf { s with before := none } resource security with
        changedLines := ChangedLines.count s.code (some before) } := by
  simp only [metricsOf, Source.apiDiff_blank_before a.reader s h, Source.impact?_blank_before a.reader a.unit s h]
  rfl

/-- A blank earlier version of a source counts as none: the analysis fails in the same way with both, or it gives
metrics that differ in the number of changed lines at most. -/
theorem analyze_blank_before (a : Analyzer) (s : Source) (h : Text.isBlankText before = true) :
    (∃ e, a.analyze { s with before := some before } = .error e ∧
      a.analyze { s with before := none } = .error e) ∨
    ∃ m n, a.analyze { s with before := some before } = .ok m ∧ a.analyze { s with before := none } = .ok n ∧
      m = { n with changedLines := m.changedLines } := by
  simp only [analyze]
  split
  · exact .inr ⟨_, _, rfl, rfl, rfl⟩
  · split
    · exact .inl ⟨_, rfl, rfl⟩
    · split
      · exact .inl ⟨_, rfl, rfl⟩
      · exact .inr ⟨_, _, rfl, rfl, by rw [metricsOf_blank_before a s _ _ h]⟩

/-- Blanks of several scripts. -/
def blankVersion : List Char :=
  ['\n', ' ', '\t', Char.ofNat 0x1C, Char.ofNat 0x2003, '\n']

/-- Both lines of the source are new to a blank version, while a fifth of them is none. The name that is declared
twice is one changed node with both. -/
theorem helpersSource_blank_before : Text.isBlankText blankVersion = true ∧
    ∃ m n, ({ reader := Script.parse } : Analyzer).analyze
        { code := CallGraph.helpersSource, before := some blankVersion } = .ok m ∧
      ({ reader := Script.parse } : Analyzer).analyze { code := CallGraph.helpersSource } = .ok n ∧
      m = { n with changedLines := 2 } ∧ n.changedLines = 0 ∧ n.impact.map (·.nodes) = some 3 := by
  have hblank : Text.isBlankText blankVersion = true := by decide +kernel
  obtain ⟨m, hm, hlines⟩ := exists_ok_of_toOption_map (f := Metrics.changedLines) (b := 2)
    (x := ({ reader := Script.parse } : Analyzer).analyze
      { code := CallGraph.helpersSource, before := some blankVersion }) (by decide +kernel)
  obtain ⟨n, hn, hnone⟩ := exists_ok_of_toOption_map
    (f := fun m => (m.changedLines, m.impact.map (·.nodes))) (b := (0, some 3))
    (x := ({ reader := Script.parse } : Analyzer).analyze { code := CallGraph.helpersSource }) (by decide +kernel)
  refine ⟨hblank, m, n, hm, hn, ?_, congrArg Prod.fst hnone, congrArg Prod.snd hnone⟩
  obtain ⟨e, herror, -⟩ | ⟨m', n', hm', hn', heq⟩ :=
    analyze_blank_before { reader := Script.parse } { code := CallGraph.helpersSource } hblank
  · cases hm.symm.trans herror
  · obtain rfl := Except.ok.inj (hm.symm.trans hm')
    obtain rfl := Except.ok.inj (hn.symm.trans hn')
    rw [heq, hlines]

end Analyzer

end RiskGauge
