import RiskGauge.Analysis.Analyzer
import RiskGauge.Proofs.Text.Case

/-!
# Tags with elements in angle brackets

Two readers look at the tag of a source: one picks the grammar, the other tells whether there are call graphs for the
language. Both disregard case, but only the first one drops dots in front of the tag. So they agree on the tags of
TSX except for those that begin with a dot (`Tag.tsx_hasGraph_unless_dotted`). The tags of file names never do.
-/

namespace RiskGauge

namespace Text

/-- No character but the dot itself becomes a dot. -/
theorem lower_eq_dot_iff {c : Char} : lower c = '.' ↔ c = '.' := by
  constructor
  · intro h
    have hmem := mem_cons_capitals c
    rw [h] at hmem
    have hcapitals : capitals '.' = [] := by decide
    rwa [hcapitals, List.mem_singleton] at hmem
  · rintro rfl
    decide

/-- A text begins with a dot if it does in small letters. -/
theorem head?_lowercase_eq_dot_iff {cs : List Char} : (lowercase cs).head? = some '.' ↔ cs.head? = some '.' := by
  cases cs with
  | nil => simp [lowercase, lowercaseFrom]
  | cons c cs =>
    by_cases hsigma : c = 'Σ'
    · subst hsigma
      simp only [lowercase, lowercaseFrom, beq_self_eq_true, if_true]
      split <;> simp
    · by_cases hdotted : c = 'İ'
      · subst hdotted
        simp [lowercase, lowercaseFrom]
      · rw [lowercase, lowercaseFrom_cons hsigma hdotted]
        simp [lower_eq_dot_iff]

end Text

namespace Tag

open Text (lower lowercase capitals)

variable {tag : String}

theorem head?_dropWhile_dot (cs : List Char) : (cs.dropWhile (· == '.')).head? ≠ some '.' := by
  intro h
  have hnot := List.head?_dropWhile_not (· == '.') cs
  rw [h] at hnot
  cases hnot

/-- In small letters, a tag of TSX is one of two words behind dots. -/
theorem lowercase_of_tsx (h : Grammar.ofTag tag = .tsx) :
    ∃ w ∈ ["tsx", "jsx"], (lowercase tag.toList).dropWhile (· == '.') = w.toList := by
  by_contra hne
  simp only [List.mem_cons, List.not_mem_nil, or_false, exists_eq_or_imp, exists_eq_left, not_or] at hne
  rw [Grammar.ofTag, if_neg (by simpa using hne)] at h
  cases h

theorem mem_lowercase_of_tsx (h : Grammar.ofTag tag = .tsx) : ∀ a ∈ lowercase tag.toList, a ∈ "tsxj.".toList := by
  obtain ⟨w, hw, hword⟩ := lowercase_of_tsx h
  have hletters : (["tsx", "jsx"].all fun w => w.toList.all ("tsxj.".toList.contains ·)) = true := by decide
  intro a ha
  rw [← List.takeWhile_append_dropWhile (p := (· == '.')) (l := lowercase tag.toList), hword, List.mem_append] at ha
  obtain ha | ha := ha
  · have hdot : a = '.' := by simpa using List.all_eq_true.mp List.all_takeWhile a ha
    rw [hdot]
    decide
  · exact List.contains_iff_mem.mp (List.all_eq_true.mp (List.all_eq_true.mp hletters w hw) a ha)

/-- There are no blanks in a tag of TSX. -/
theorem trim_of_tsx (h : Grammar.ofTag tag = .tsx) : Text.trim tag.toList = tag.toList := by
  have hmem := mem_lowercase_of_tsx h
  have hascii : ("tsxj.".toList.all fun a => a.toNat < 0x80) = true := by decide
  have hblank : ("tsxj.".toList.all fun a => (a :: capitals a).all fun c => !Text.isBlank c) = true := by decide
  have hsmall : lowercase tag.toList = tag.toList.map lower :=
    Text.lowercaseFrom_eq_map fun a ha => of_decide_eq_true (List.all_eq_true.mp hascii a (hmem a ha))
  refine Text.trim_of_forall fun c hc => ?_
  have hlower : lower c ∈ "tsxj.".toList := hmem _ (hsmall ▸ List.mem_map_of_mem hc)
  have hall := List.all_eq_true.mp hblank _ hlower
  simpa using List.all_eq_true.mp hall c (Text.mem_cons_capitals c)

/-- A tag of TSX has call graphs unless it begins with a dot. -/
theorem hasGraph_iff_of_tsx (h : Grammar.ofTag tag = .tsx) : hasGraph tag = true ↔ tag.toList.head? ≠ some '.' := by
  have hplain : ∀ g ∈ graphTags, g.toList.head? ≠ some '.' := by decide
  have hwords : ∀ w ∈ ["tsx", "jsx"], w ∈ graphTags := by decide
  rw [hasGraph, trim_of_tsx h, List.contains_iff_mem, ne_eq, ← Text.head?_lowercase_eq_dot_iff]
  constructor
  · intro hmem
    have hhead := hplain _ hmem
    rwa [String.toList_ofList] at hhead
  · intro hhead
    obtain ⟨w, hw, hword⟩ := lowercase_of_tsx h
    rw [Text.dropWhile_beq_of_head? hhead] at hword
    rw [hword, String.ofList_toList]
    exact hwords w hw

/-- The tag of a file name does not begin with a dot. -/
theorem head?_of_ofPath? {path : String} (h : ofPath? path = some tag) : tag.toList.head? ≠ some '.' := by
  simp only [ofPath?, Option.ite_none_left_eq_some, Option.some.injEq] at h
  obtain ⟨-, rfl⟩ := h
  rw [String.toList_ofList, ne_eq, Text.head?_lowercase_eq_dot_iff]
  exact head?_dropWhile_dot _

end Tag

/-- The two readers of a tag agree on the sources that are read as TSX, unless the tag begins with a dot: then there is
no call graph, and the functionality is told by the structure alone. The tag of a file name never begins with a dot. -/
theorem Tag.tsx_hasGraph_unless_dotted {tag : String} (h : Grammar.ofTag tag = .tsx) :
    (Tag.hasGraph tag = true ↔ tag.toList.head? ≠ some '.') ∧
    (∀ path, Tag.ofPath? path = some tag → Tag.hasGraph tag = true) ∧
    ∀ (reader : SourceReader) (unit : String) (s : Source), s.tag = tag →
      s.impact? reader unit = if tag.toList.head? = some '.' then none
        else (CallGraph.build reader unit .tsx s.code s.before).functionality?.map Functionality.rounded := by
  have hgraph := Tag.hasGraph_iff_of_tsx h
  refine ⟨hgraph, fun path hpath => hgraph.mpr (Tag.head?_of_ofPath? hpath), fun reader unit s hs => ?_⟩
  rw [Source.impact?, hs, h]
  by_cases hdot : tag.toList.head? = some '.'
  · rw [if_pos hdot, if_neg fun hg => hgraph.mp hg hdot]
  · rw [if_neg hdot, if_pos (hgraph.mpr hdot)]

/-- The tag of a file of components. -/
theorem Tag.component_file_hasGraph :
    Grammar.ofTag "tsx" = .tsx ∧ Tag.ofPath? "src/App.TSX" = some "tsx" ∧ Tag.hasGraph "tsx" = true := by
  have hgrammar : Grammar.ofTag "tsx" = .tsx := by decide
  have hpath : Tag.ofPath? "src/App.TSX" = some "tsx" := by decide
  exact ⟨hgrammar, hpath, (Tag.tsx_hasGraph_unless_dotted hgrammar).2.1 _ hpath⟩

/-- The ending of a file name with its dot picks the grammar, and yet there is no call graph for it. -/
theorem Tag.dotted_tag_without_graph : Grammar.ofTag ".tsx" = .tsx ∧ Tag.hasGraph ".tsx" = false := by
  decide

end RiskGauge
