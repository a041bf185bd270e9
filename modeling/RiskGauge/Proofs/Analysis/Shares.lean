import Mathlib.Data.Finset.Card
import RiskGauge.Proofs.Analysis.Assess
import RiskGauge.Proofs.Api.Distance
import RiskGauge.Proofs.Structure.Alignment

/-!
# How much of a source has changed

An analysis gives two shares by their parts: the changes of the API among its declarations, and the changed lines among
the lines. In both shares the two parts are counted in different ways.

* A source without an earlier version has a change for each name that it declares (`Api.changes_diff_nil`), while the
  second declaration of a name counts as a declaration of its own.
* A changed line ends with any line break, while all lines are counted by their line feeds. The two counts of lines differ
  by the breaks that are no line feeds (`Text.length_lines`).
-/

namespace RiskGauge

/-! ## The changes of a new API -/

namespace Api

theorem changes_diff_nil (xs : List Signature) : (diff [] xs).changes = (declared xs).card := by
  rw [changes_diff]
  congr 1
  ext name
  have hnone : lastText? [] name = none := rfl
  rw [mem_differing, hnone, ← isSome_lastText?, ne_comm, Option.isSome_iff_ne_none]

theorem total_diff_nil (xs : List Signature) : (diff [] xs).total = xs.length :=
  Nat.zero_max xs.length

theorem card_declared_eq_length_iff (xs : List Signature) :
    (declared xs).card = xs.length ↔ (xs.map (·.name)).Nodup := by
  rw [declared, ← List.length_map (·.name)]
  exact Multiset.toFinset_card_eq_card_iff_nodup

end Api

/-- The API has changed as a whole if there are as many changes as declarations, and any at all. -/
theorem Metrics.apiRatio_of_eq {m : Metrics Float} (h : m.apiChanges = m.totalApis) (hpos : 0 < m.totalApis) :
    m.apiRatio = .ok 1.0 := by
  have hmax : max 1 m.totalApis = m.totalApis := by omega
  have hquotient : (Scalar.quotient? m.totalApis m.totalApis : Except NumericError Float) = .ok 1.0 := by
    simp only [Scalar.quotient?, bne_self_eq_false, Binary64.ofRatio?_self (Int.natAbs_pos.mpr hpos.ne')]
  have hclamp : Scalar.clamp (1.0 : Float) = 1.0 := by decide +kernel
  rw [apiRatio, h, hmax, hquotient]
  exact congrArg Except.ok hclamp

/-! ## Two counts of lines -/

namespace Text

/-- The number of line breaks that are neither line feeds nor carriage returns before a line feed. -/
def strayBreaks : List Char → Nat
  | [] => 0
  | '\r' :: '\n' :: rest => strayBreaks rest
  | c :: rest => (if isLineBreak c ∧ c ≠ '\n' then 1 else 0) + strayBreaks rest

/-- No line is open at the end of the text. -/
def endsInBreak (s : List Char) : Bool :=
  s.getLast?.all isLineBreak

theorem strayBreaks_cons {c : Char} {rest : List Char} (h : ∀ after, c = '\r' → rest = '\n' :: after → False) :
    strayBreaks (c :: rest) = (if isLineBreak c ∧ c ≠ '\n' then 1 else 0) + strayBreaks rest := by
  rw [strayBreaks]
  exact h

theorem getLast?_cons_elim (c : Char) (rest : List Char) (start : Bool) :
    (c :: rest).getLast?.elim start isLineBreak = rest.getLast?.elim (isLineBreak c) isLineBreak := by
  rw [List.getLast?_cons]
  cases rest.getLast? <;> rfl

/-- The lines of the rest of a text: one for each line feed and each stray break, and one that is open at the end. -/
theorem length_linesFrom (line s : List Char) :
    (linesFrom line s).length + (s.getLast?.elim line.isEmpty isLineBreak).toNat = lineCount s + strayBreaks s := by
  -- what the text ends in stays the same from step to step, with `line` in the place of what was read
  fun_induction linesFrom line s with
  | case1 line hline => simp [hline, lineCount, strayBreaks]
  | case2 line hline => simp [hline, lineCount, strayBreaks]
  | case3 line rest ih =>
    have hfeed : isLineBreak '\n' = true := rfl
    rw [getLast?_cons_elim, getLast?_cons_elim, hfeed, strayBreaks, List.length_cons, lineCount,
      List.count_cons_of_ne (by decide), List.count_cons_self]
    simp only [List.isEmpty_nil, lineCount] at ih
    omega
  | case4 line c rest hpair hbreak ih =>
    rw [getLast?_cons_elim, hbreak, strayBreaks_cons hpair, List.length_cons, lineCount]
    simp only [List.isEmpty_nil, lineCount] at ih
    by_cases hc : c = '\n'
    · rw [hc, List.count_cons_self, if_neg fun h => h.2 rfl]
      omega
    · rw [List.count_cons_of_ne hc, if_pos ⟨hbreak, hc⟩]
      omega
  | case5 line c rest hpair hbreak ih =>
    have hc : c ≠ '\n' := by
      rintro rfl
      exact hbreak rfl
    rw [getLast?_cons_elim, strayBreaks_cons hpair, lineCount, List.count_cons_of_ne hc, if_neg fun h => hbreak h.1]
    simp only [List.isEmpty_cons, lineCount] at ih
    rw [Bool.not_eq_true] at hbreak
    rw [hbreak]
    omega

/-- Lines that end with any break, and lines counted by line feeds. -/
theorem length_lines (s : List Char) : (lines s).length + (endsInBreak s).toNat = lineCount s + strayBreaks s := by
  have hend : endsInBreak s = s.getLast?.elim true isLineBreak := by
    unfold endsInBreak
    cases s.getLast? <;> rfl
  rw [hend]
  exact length_linesFrom [] s

end Text

namespace ChangedLines

theorem count_none_le (text : List Char) : count text none ≤ Text.lineCount text := by
  unfold count
  split
  · exact Nat.zero_le _
  · have hpos : 0 < Text.lineCount text := Nat.succ_pos _
    have hestimate := Nat.min_le_right cap ((2 * Text.lineCount text + 5) / 10)
    simp only [estimate]
    omega

/-- There are not more changed lines than lines exactly if not more breaks are stray than lines are kept, one more where
the text ends in a break. -/
theorem count_some_le_iff (text before : List Char) :
    count text (some before) ≤ Text.lineCount text ↔
      Text.strayBreaks text ≤ matched (Text.lines before) (Text.lines text) + (Text.endsInBreak text).toNat := by
  have hlines := Text.length_lines text
  rw [count_some]
  omega

end ChangedLines

/-! ## The shares of an analysis -/

/-- The declarations of a source. -/
def Source.declarations (reader : SourceReader) (s : Source) : List Api.Signature :=
  Api.signatures reader (Grammar.ofTag s.tag) s.code

namespace Analyzer

variable {a : Analyzer} {s : Source} {m : Metrics Float}

/-- The metrics of a source that is not blank are those of its scans. -/
theorem metricsOf_of_analyze (hcode : Text.isBlankText s.code = false) (h : a.analyze s = .ok m) :
    ∃ resource security, m = a.metricsOf s resource security := by
  rw [analyze, hcode, if_neg Bool.false_ne_true] at h
  split at h
  · cases h
  · split at h
    · cases h
    · exact ⟨_, _, (Except.ok.inj h).symm⟩

/-- A source without an earlier version has as many changes of its API as it declares names, among as many declarations as
it has. So there is a change for each declaration exactly if no name is declared twice, and then the API has changed as a
whole as soon as there is a declaration. -/
theorem new_api_changes (hcode : Text.isBlankText s.code = false) (hnew : s.before = none) (h : a.analyze s = .ok m) :
    m.totalApis = (s.declarations a.reader).length ∧
    m.apiChanges = (Api.declared (s.declarations a.reader)).card ∧
    (m.apiChanges = m.totalApis ↔ ((s.declarations a.reader).map (·.name)).Nodup) ∧
    (((s.declarations a.reader).map (·.name)).Nodup → s.declarations a.reader ≠ [] → m.apiRatio = .ok 1.0) := by
  obtain ⟨resource, security, rfl⟩ := metricsOf_of_analyze hcode h
  have hdiff : s.apiDiff a.reader = Api.diff [] (s.declarations a.reader) := by
    rw [Source.apiDiff, hnew]
    rfl
  have htotal : (a.metricsOf s resource security).totalApis = (s.declarations a.reader).length := by
    simp only [metricsOf, hdiff, Api.total_diff_nil]
  have hchanges : (a.metricsOf s resource security).apiChanges = (Api.declared (s.declarations a.reader)).card := by
    simp only [metricsOf, hdiff, Api.changes_diff_nil]
  have hnodup := Api.card_declared_eq_length_iff (s.declarations a.reader)
  refine ⟨htotal, hchanges, ?_, fun hnames hne => ?_⟩
  · rw [htotal, hchanges, ← hnodup]
    exact Int.natCast_inj
  · have hpos := List.length_pos_iff.mpr hne
    refine Metrics.apiRatio_of_eq ?_ (by omega)
    rw [htotal, hchanges, hnodup.mpr hnames]

/-- An interface, a function and a binding of a function. -/
def apiSource : Source where
  code := "interface A { x: number }\nexport function f() { return 1; }\nconst g = () => 2;".toList

theorem apiSource_changes : Text.isBlankText apiSource.code = false ∧ apiSource.before = none ∧
    ∃ m, ({ reader := Script.parse } : Analyzer).analyze apiSource = .ok m ∧
      m.totalApis = 3 ∧ m.apiChanges = 3 ∧ m.apiRatio = .ok 1.0 := by
  have hcode : Text.isBlankText apiSource.code = false := by decide +kernel
  obtain ⟨m, hm, htotal⟩ := exists_ok_of_toOption_map (f := Metrics.totalApis) (b := 3)
    (x := ({ reader := Script.parse } : Analyzer).analyze apiSource) (by decide +kernel)
  have hnames : (apiSource.declarations Script.parse).map (·.name) = ["A", "f", "g"] := by decide +kernel
  have hnodup : ((apiSource.declarations Script.parse).map (·.name)).Nodup := by
    rw [hnames]
    decide
  have hne : apiSource.declarations Script.parse ≠ [] := by
    intro hnil
    rw [hnil] at hnames
    cases hnames
  obtain ⟨-, -, hchanges, hratio⟩ := new_api_changes (a := { reader := Script.parse }) hcode rfl hm
  exact ⟨hcode, rfl, m, hm, htotal, (hchanges.mpr hnodup).trans htotal, hratio hnodup hne⟩

/-- An interface in two parts. -/
def mergedSource : Source where
  code := "interface A { x: number }\ninterface A { y: number }".toList

/-- The parts of an interface are two declarations, but one change. -/
theorem mergedSource_one_change : Text.isBlankText mergedSource.code = false ∧ mergedSource.before = none ∧
    ∃ m, ({ reader := Script.parse } : Analyzer).analyze mergedSource = .ok m ∧ m.totalApis = 2 ∧ m.apiChanges = 1 := by
  obtain ⟨m, hm, hcounts⟩ := exists_ok_of_toOption_map (f := fun m => (m.totalApis, m.apiChanges)) (b := (2, 1))
    (x := ({ reader := Script.parse } : Analyzer).analyze mergedSource) (by decide +kernel)
  exact ⟨by decide +kernel, rfl, m, hm, congrArg Prod.fst hcounts, congrArg Prod.snd hcounts⟩

/-- The changed lines of a source, among its lines. There are never more without an earlier version. With one, there are
not more exactly if the breaks that are no line feeds are not more than the lines that are kept, and one where the source
ends in a break; so there are never more in a source that has line feeds only, with or without carriage returns. -/
theorem changedLines_le_totalLines_iff (hcode : Text.isBlankText s.code = false) (h : a.analyze s = .ok m) :
    0 ≤ m.changedLines ∧
    (s.before = none → m.changedLines ≤ m.totalLines) ∧
    (∀ before, s.before = some before → (m.changedLines ≤ m.totalLines ↔
      Text.strayBreaks s.code ≤
        ChangedLines.matched (Text.lines before) (Text.lines s.code) + (Text.endsInBreak s.code).toNat)) ∧
    (Text.strayBreaks s.code = 0 → m.changedLines ≤ m.totalLines) := by
  obtain ⟨resource, security, rfl⟩ := metricsOf_of_analyze hcode h
  have hle : (a.metricsOf s resource security).changedLines ≤ (a.metricsOf s resource security).totalLines ↔
      ChangedLines.count s.code s.before ≤ Text.lineCount s.code := Int.ofNat_le
  simp only [hle]
  refine ⟨Int.natCast_nonneg _, fun hnew => ?_, fun before hbefore => ?_, fun hstray => ?_⟩
  · rw [hnew]
    exact ChangedLines.count_none_le s.code
  · rw [hbefore]
    exact ChangedLines.count_some_le_iff s.code before
  · cases hbefore : s.before with
    | none => exact ChangedLines.count_none_le s.code
    | some before =>
      rw [ChangedLines.count_some_le_iff s.code before, hstray]
      exact Nat.zero_le _

/-- Two lines with a carriage return between them, after another version. -/
def returnSource (before : String) : Source where
  code := "let a = 1;\rlet b = 2;".toList
  before := some before.toList

/-- One break is stray, and one line is kept. -/
theorem returnSource_within : Text.isBlankText (returnSource "let a = 1;\nlet c = 3;").code = false ∧
    ∃ m, ({ reader := Script.parse } : Analyzer).analyze (returnSource "let a = 1;\nlet c = 3;") = .ok m ∧
      m.totalLines = 1 ∧ m.changedLines ≤ m.totalLines := by
  have hcode : Text.isBlankText (returnSource "let a = 1;\nlet c = 3;").code = false := by decide +kernel
  obtain ⟨m, hm, htotal⟩ := exists_ok_of_toOption_map (f := Metrics.totalLines) (b := 1)
    (x := ({ reader := Script.parse } : Analyzer).analyze (returnSource "let a = 1;\nlet c = 3;")) (by decide +kernel)
  obtain ⟨-, -, hiff, -⟩ := changedLines_le_totalLines_iff (a := { reader := Script.parse }) hcode hm
  exact ⟨hcode, m, hm, htotal, (hiff _ rfl).mpr (by decide +kernel)⟩

/-- One break is stray, and no line is kept: both lines have changed, and there is one. -/
theorem returnSource_exceeds : Text.isBlankText (returnSource "let c = 3;").code = false ∧
    ∃ m, ({ reader := Script.parse } : Analyzer).analyze (returnSource "let c = 3;") = .ok m ∧
      m.totalLines = 1 ∧ m.changedLines = 2 := by
  obtain ⟨m, hm, hcounts⟩ := exists_ok_of_toOption_map (f := fun m => (m.totalLines, m.changedLines)) (b := (1, 2))
    (x := ({ reader := Script.parse } : Analyzer).analyze (returnSource "let c = 3;")) (by decide +kernel)
  exact ⟨by decide +kernel, m, hm, congrArg Prod.fst hcounts, congrArg Prod.snd hcounts⟩

end Analyzer

end RiskGauge
