import Mathlib.Algebra.BigOperators.Group.List.Basic
import Mathlib.Algebra.Ring.Int.Defs
import RiskGauge.Proofs.Pattern.InLine
import RiskGauge.Resource.Scan

/-!
# Counters of a source

Branches, loops and calls to the outside are counted by patterns that stay in a line. Each of these counters is the sum
of what it is for the lines of the source (`counters_add`).
-/

namespace RiskGauge

/-- A number that two texts with a line feed between them have as a sum, and so the lines of a text. -/
structure AddsOverLines (f : List Char → Int) : Prop where
  feed : ∀ c t, f (c ++ '\n' :: t) = f c + f t
  lines : ∀ text, f text = ((text.splitOn '\n').map f).sum

namespace AddsOverLines

variable {f : List Char → Int}

theorem intercalate (h : ∀ c t, f (c ++ '\n' :: t) = f c + f t) {lines : List (List Char)} (hne : lines ≠ []) :
    f (['\n'].intercalate lines) = (lines.map f).sum := by
  induction lines with
  | nil => exact absurd rfl hne
  | cons line lines ih =>
    cases lines with
    | nil => simp
    | cons next lines =>
      have hcut : ['\n'].intercalate (line :: next :: lines) = line ++ '\n' :: ['\n'].intercalate (next :: lines) := by
        simp [List.intercalate]
      simp only [hcut, h, ih (List.cons_ne_nil _ _), List.map_cons, List.sum_cons]

theorem of_feed (h : ∀ c t, f (c ++ '\n' :: t) = f c + f t) : AddsOverLines f where
  feed := h
  lines text := by
    have hjoin : ['\n'].intercalate (text.splitOn '\n') = text := List.intercalate_splitOn '\n'
    rw [← intercalate h (List.splitOn_ne_nil '\n' text), hjoin]

theorem count {p : Pattern} (hp : p.Consumes) (hline : p.inLine = true) : AddsOverLines fun text => p.count text :=
  of_feed fun c t => by rw [hp.count_feed hline, Int.natCast_add]

theorem add {g : List Char → Int} (hf : AddsOverLines f) (hg : AddsOverLines g) :
    AddsOverLines fun text => f text + g text :=
  of_feed fun c t => by
    rw [hf.feed, hg.feed]
    omega

end AddsOverLines

/-! ## The patterns -/

namespace Complexity

theorem consumes_branchWord : branchWord.Consumes := ⟨by decide, by decide⟩

theorem consumes_branchOperator : branchOperator.Consumes := ⟨by decide, by decide⟩

theorem consumes_loopToken : loopToken.Consumes := ⟨by decide, by decide⟩

theorem loopDepth_scan (text : List Char) : (scan text).loopDepth = loopDepth text := by
  cases text with
  | nil => decide
  | cons c text => rfl

theorem loopCount_scan (text : List Char) : (scan text).loopCount = loopToken.count text := by
  cases text with
  | nil => decide
  | cons c text => rfl

theorem branching_scan (text : List Char) :
    (scan text).branching = 1 + branchWord.count text + branchOperator.count text := by
  cases text with
  | nil => decide
  | cons c text => rfl

end Complexity

namespace External

theorem consumes_networkWord : networkWord.Consumes := ⟨by decide, by decide⟩

theorem consumes_fileCall : fileCall.Consumes := ⟨by decide, by decide⟩

end External

/-- The branches, the loops and the calls to the outside of a source are those of its lines together. -/
theorem counters_add :
    (AddsOverLines fun text => (Complexity.scan text).branching - 1) ∧
    (AddsOverLines fun text => (Complexity.scan text).loopCount) ∧
    (AddsOverLines fun text => (External.scan text).networkCalls) ∧
    (AddsOverLines fun text => (External.scan text).fileCalls) := by
  refine ⟨?_, ?_, ?_, ?_⟩
  · have hbranches : (fun text => ((Complexity.scan text).branching : Int) - 1) =
        fun text => (Complexity.branchWord.count text : Int) + Complexity.branchOperator.count text := by
      funext text
      rw [Complexity.branching_scan]
      omega
    rw [hbranches]
    exact (AddsOverLines.count Complexity.consumes_branchWord (by decide)).add
      (AddsOverLines.count Complexity.consumes_branchOperator (by decide))
  · simp only [Complexity.loopCount_scan]
    exact AddsOverLines.count Complexity.consumes_loopToken (by decide)
  · exact AddsOverLines.count External.consumes_networkWord (by decide)
  · exact AddsOverLines.count External.consumes_fileCall (by decide)

end RiskGauge
