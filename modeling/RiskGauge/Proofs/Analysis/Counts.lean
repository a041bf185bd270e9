import RiskGauge.Analysis.Analyzer
import RiskGauge.Proofs.Entries
import RiskGauge.Proofs.Failure

/-!
# How large the counts of an analysis are

A pattern has at most one match more than a text has characters (`Pattern.count_le`), so everything that an
analysis counts by patterns or by lines is bounded by the length of the text. Sizes that are written in the
text are not.
-/

namespace RiskGauge

namespace Pattern

theorem length_findUpTo_le (p : Pattern) (n : Nat) (s : Cursor) : (p.findUpTo n s).length ≤ n := by
  induction n generalizing s with
  | zero => simp [findUpTo]
  | succ n ih =>
    rw [findUpTo]
    split
    · simp
    · split
      · simpa using ih _
      · simp

theorem length_findAll_le (p : Pattern) (text : List Char) : (p.findAll text).length ≤ text.length + 1 :=
  length_findUpTo_le ..

theorem count_le (p : Pattern) (text : List Char) : p.count text ≤ text.length + 1 :=
  length_findAll_le ..

end Pattern

/-! ## Resources -/

theorem Memory.allocations_le {text : List Char} {signals : Memory.Signals}
    (h : Memory.scan text = .ok signals) : signals.allocations ≤ 5 * (text.length + 1) := by
  rw [scan] at h
  split at h
  · cases h
    simp
  simp only [bind_eq_ok, pure_eq_ok] at h
  obtain ⟨buffers, hbuffers, arrays, harrays, rfl⟩ := h
  have h₁ := length_of_mapM_ok hbuffers
  have h₂ := length_of_mapM_ok harrays
  have h₃ := bufferAlloc.length_findAll_le text
  have h₄ := sizedArray.length_findAll_le text
  have h₅ := arrayLiteral.length_findAll_le text
  have h₆ := objectLiteral.length_findAll_le text
  have h₇ := collection.count_le text
  simp only [List.length_map]
  omega

theorem Complexity.branching_le (text : List Char) :
    (Complexity.scan text).branching ≤ 2 * (text.length + 1) + 1 := by
  have hwords := Complexity.branchWord.count_le text
  have hoperators := Complexity.branchOperator.count_le text
  unfold scan
  split
  · simp
  · simp only
    omega

theorem Complexity.loopDepth_le (text : List Char) : (Complexity.scan text).loopDepth ≤ 3 := by
  unfold scan
  split
  · simp
  · simp only [loopDepth]
    split_ifs <;> omega

/-! ## Changes -/

theorem Text.length_linesFrom_le (line s : List Char) : (Text.linesFrom line s).length ≤ s.length + 1 := by
  fun_induction Text.linesFrom line s with
  | _ => simp <;> omega

theorem ChangedLines.count_le (text : List Char) (before : Option (List Char)) :
    ChangedLines.count text before ≤ text.length + cap := by
  have hlines := Text.length_linesFrom_le [] text
  unfold count
  split
  · exact Nat.zero_le _
  · cases before with
    | none => exact Nat.le_trans (Nat.min_le_left ..) (Nat.le_add_left ..)
    | some before =>
      simp only [Text.lines, cap]
      omega

/-- There are at most three changes to each declaration of the larger list. -/
theorem Api.changes_diff_le (before after : List Signature) :
    (diff before after).changes ≤ 3 * (diff before after).total := by
  have hold : (latest before).length ≤ before.length := by
    simpa [latest] using Entries.length_ofPairs_le (before.map fun s => (s.name, s.text))
  have hnew : (latest after).length ≤ after.length := by
    simpa [latest] using Entries.length_ofPairs_le (after.map fun s => (s.name, s.text))
  have hadded := (latest after).countP_le_length (p := fun e => !(latest before).has e.1)
  have hremoved := (latest before).countP_le_length (p := fun e => !(latest after).has e.1)
  have hchanged := (latest before).countP_le_length (p := fun e => ((latest after).find? e.1).any (· ≠ e.2))
  simp only [diff, Diff.changes]
  omega

theorem Source.changes_apiDiff_le (reader : SourceReader) (s : Source) :
    (s.apiDiff reader).changes ≤ 3 * (s.apiDiff reader).total :=
  Api.changes_diff_le ..

end RiskGauge
