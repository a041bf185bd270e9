import Mathlib.Data.List.Forall2
import RiskGauge.Text.Case

/-!
# Letters with case disregarded

The characters that are equal to a letter when case is disregarded are few, and `variants` lists them
(`mem_variants_of_sameLetter`). So what is said of all of them is checked one by one, for all letters of some words at
once (`of_sameLetter`).

In a whole text a few letters become others than they do alone. A text that is ASCII in small letters has none of these
(`lowercaseFrom_eq_map`).
-/

namespace RiskGauge.Text

variable {a c : Char}

/-- The small letters of a run are characters. -/
theorem isValidChar_small {run : CapitalRun} (hrun : run ∈ capitalRuns) {n : Nat} (h : run.holds n = true) :
    (run.small n).isValidChar ∧ (run.small n : Int) = n + run.shift := by
  have hcheck : capitalRuns.all fun r => decide (0 ≤ r.first + r.shift ∧ (r.last + r.shift < 0xD800 ∨
      0xE000 ≤ r.first + r.shift ∧ r.last + r.shift < 0x110000)) := by decide +kernel
  obtain ⟨hpos, hrange⟩ := of_decide_eq_true (List.all_eq_true.mp hcheck run hrun)
  simp only [CapitalRun.holds, Bool.and_eq_true, decide_eq_true_eq] at h
  have hsmall : (run.small n : Int) = n + run.shift := Int.toNat_of_nonneg (by omega)
  refine ⟨?_, hsmall⟩
  show run.small n < 0xD800 ∨ 0xDFFF < run.small n ∧ run.small n < 0x110000
  omega

/-- A capital is among those of its small letter. -/
theorem mem_capitals {run : CapitalRun} (hrun : run ∈ capitalRuns) (h : run.holds c.toNat = true) :
    c ∈ capitals (Char.ofNat (run.small c.toNat)) := by
  obtain ⟨hvalid, hsmall⟩ := isValidChar_small hrun h
  have hback : run.capitalOf? (Char.ofNat (run.small c.toNat)).toNat = some c.toNat := by
    have hcode : (Char.ofNat (run.small c.toNat)).toNat = run.small c.toNat :=
      congrArg Char.toNat (dif_pos hvalid : Char.ofNat _ = Char.ofNatAux _ hvalid)
    have hcapital : ((run.small c.toNat : Int) - run.shift).toNat = c.toNat := by omega
    simp only [CapitalRun.capitalOf?, hcode, hcapital, h, if_true]
  refine List.mem_map.mpr ⟨c.toNat, List.mem_filterMap.mpr ⟨run, hrun, hback⟩, ?_⟩
  exact Char.ofNat_toNat c

theorem mem_capitals_ascii (h : 65 ≤ c.toNat ∧ c.toNat ≤ 90) : c ∈ capitals (Char.ofNat (c.toNat + 32)) := by
  have hsmall : CapitalRun.small ⟨0x41, 0x5A, 1, 32⟩ c.toNat = c.toNat + 32 := rfl
  have hholds : CapitalRun.holds ⟨0x41, 0x5A, 1, 32⟩ c.toNat = true := by simp [CapitalRun.holds, h, Nat.mod_one]
  rw [← hsmall]
  exact mem_capitals List.mem_cons_self hholds

theorem mem_cons_capitals (c : Char) : c ∈ lower c :: capitals (lower c) := by
  rw [List.mem_cons]
  unfold lower
  dsimp only
  split
  · split
    · rename_i hcapital
      simp only [Bool.and_eq_true, decide_eq_true_eq, Char.le_def, UInt32.le_iff_toNat_le] at hcapital
      have hcode : 65 ≤ c.toNat ∧ c.toNat ≤ 90 := hcapital
      exact .inr (mem_capitals_ascii hcode)
    · exact .inl rfl
  · split
    · rename_i run hrun
      have hholds : run.holds c.toNat = true := List.find?_some (p := fun r : CapitalRun => r.holds c.toNat) hrun
      exact .inr (mem_capitals (List.mem_of_find?_eq_some hrun) hholds)
    · exact .inl rfl

theorem mem_family_self (small : Char) : small ∈ family small := by
  unfold family
  split <;> simp

/-- All characters that are equal to a letter when case is disregarded are listed. -/
theorem mem_variants_of_sameLetter (h : sameLetter a c = true) : c ∈ variants a := by
  have hfamily : lower c ∈ family (lower a) := by
    simp only [sameLetter, Bool.or_eq_true, beq_iff_eq, List.contains_eq_mem, decide_eq_true_eq] at h
    obtain h | h := h
    · rw [h]
      exact mem_family_self (lower c)
    · exact h
  exact List.mem_flatMap.mpr ⟨lower c, hfamily, mem_cons_capitals c⟩

/-- What holds of the variants of all letters of a word one by one holds of the word in any case. -/
theorem of_sameLetter {p : Char → Bool} {word : String} (h : (word.toList.all fun a => (variants a).all p) = true)
    {w : List Char} (hw : List.Forall₂ (fun a c => sameLetter a c = true) word.toList w) : ∀ c ∈ w, p c = true := by
  intro c hc
  obtain ⟨i, hi, rfl⟩ := List.mem_iff_getElem.mp hc
  have hi' : i < word.toList.length := hw.length_eq ▸ hi
  have hsame : sameLetter word.toList[i] w[i] = true := hw.get hi' hi
  have hall := List.all_eq_true.mp h _ (List.getElem_mem hi')
  exact List.all_eq_true.mp hall _ (mem_variants_of_sameLetter hsame)

/-! ## Texts in small letters -/

section Lowercase

variable {before cs : List Char}

theorem lowercaseFrom_cons (hsigma : c ≠ 'Σ') (hdotted : c ≠ 'İ') :
    lowercaseFrom before (c :: cs) = lower c :: lowercaseFrom (c :: before) cs := by
  simp [lowercaseFrom, hsigma, hdotted]

/-- A text that is ASCII in small letters is written in small letters character by character. -/
theorem lowercaseFrom_eq_map (h : ∀ a ∈ lowercaseFrom before cs, a.toNat < 0x80) :
    lowercaseFrom before cs = cs.map lower := by
  induction cs generalizing before with
  | nil => rfl
  | cons c cs ih =>
    -- both small letters of sigma, and the dot that is kept, are beyond ASCII
    have hsigma : c ≠ 'Σ' := by
      rintro rfl
      rw [lowercaseFrom, List.forall_mem_append] at h
      have hsmall := h.1 _ (by rw [if_pos (by decide)]; exact List.mem_singleton_self _)
      split at hsmall <;> revert hsmall <;> decide
    have hdotted : c ≠ 'İ' := by
      rintro rfl
      have hdot := h '̇' (List.mem_append_left _ (by simp))
      revert hdot
      decide
    rw [lowercaseFrom_cons hsigma hdotted] at h ⊢
    rw [ih fun a ha => h a (List.mem_cons_of_mem _ ha), List.map_cons]

end Lowercase

end RiskGauge.Text
