import Mathlib.Data.List.Forall2
import RiskGauge.Proofs.Reply.Fences

/-!
# Fences in pairs

A text is split at its fences from left to right (`Splits`): what stands before the first fence, and then the parts of
what is left behind it, so that no backtick belongs to two fences. There is one way to do so (`splits_iff`). The first
and the second fence enclose a block, and so do the third and the fourth; a last fence without a partner encloses
nothing (`getElem?_enclosed`). `Reads` says what a block stands for. `ofReply_pairs_fences` puts these together for any
text.
-/

namespace RiskGauge.Fence

variable {text front rest : List Char}

/-! ## Splitting -/

/-- The first fence of a text stands between `front` and `rest`. -/
structure FirstFence (text front rest : List Char) : Prop where
  eq : text = front ++ (mark ++ rest)
  first : ∀ front' rest', text = front' ++ (mark ++ rest') → front.length ≤ front'.length

/-- The texts between the fences, taken from left to right. -/
inductive Splits : List Char → List (List Char) → Prop
  | whole {text : List Char} (h : ¬ mark <:+: text) : Splits text [text]
  | fence {text front rest : List Char} {parts : List (List Char)} (h : FirstFence text front rest)
      (hrest : Splits rest parts) : Splits text (front :: parts)

theorem cut_eq_none_iff : cut text = none ↔ ¬ mark <:+: text := by
  constructor
  · rintro hcut ⟨front, rest, rfl⟩
    have hsome := isSome_cut_append front rest
    rw [← List.append_assoc, hcut] at hsome
    cases hsome
  · intro h
    by_contra hcut
    obtain ⟨⟨front, rest⟩, hsome⟩ := Option.ne_none_iff_exists'.mp hcut
    exact h ⟨front, rest, by rw [List.append_assoc, ← cut_eq_some hsome]⟩

theorem firstFence_of_cut (h : cut text = some (front, rest)) : FirstFence text front rest := by
  refine ⟨cut_eq_some h, fun front' rest' htext => ?_⟩
  fun_induction cut text generalizing front front' with
  | case1 tail =>
    obtain ⟨rfl, -⟩ : [] = front ∧ tail = rest := by simpa using h
    exact Nat.zero_le _
  | case2 c tail hmark ih =>
    obtain ⟨⟨front₁, rest₁⟩, htail, hpair⟩ := Option.map_eq_some_iff.mp h
    obtain ⟨rfl, rfl⟩ : c :: front₁ = front ∧ rest₁ = rest := by simpa using hpair
    cases front' with
    | nil =>
      obtain ⟨rfl, rfl⟩ := List.cons.inj htext
      exact absurd rfl (hmark rest' rfl)
    | cons d front' => exact Nat.succ_le_succ (ih htail front' (List.cons.inj htext).2)
  | case3 => cases h

theorem FirstFence.cut_eq (h : FirstFence text front rest) : cut text = some (front, rest) := by
  have hsome : (cut text).isSome = true := h.eq ▸ isSome_cut_append front rest
  obtain ⟨⟨front', rest'⟩, hcut⟩ := Option.isSome_iff_exists.mp hsome
  have h' := firstFence_of_cut hcut
  have hlength : front.length = front'.length :=
    Nat.le_antisymm (h.first front' rest' h'.eq) (h'.first front rest h.eq)
  obtain ⟨rfl, hrest⟩ := List.append_inj (h.eq.symm.trans h'.eq) hlength
  rw [hcut, List.append_cancel_left hrest]

theorem splits_parts (text : List Char) : Splits text (parts text) := by
  induction hn : text.length using Nat.strong_induction_on generalizing text with
  | h n ih =>
    cases hcut : cut text with
    | none =>
      rw [parts_of_cut_none hcut]
      exact .whole (cut_eq_none_iff.mp hcut)
    | some p =>
      have hlength : p.2.length < n := by
        rw [← hn, cut_eq_some hcut]
        simp only [List.length_append, mark, List.length_cons]
        omega
      rw [parts_of_cut hcut]
      exact .fence (firstFence_of_cut hcut) (ih _ hlength p.2 rfl)

/-- Every text is split in exactly one way. -/
theorem splits_iff {ps : List (List Char)} : Splits text ps ↔ ps = parts text := by
  constructor
  · intro h
    induction h with
    | whole h => rw [parts_of_cut_none (cut_eq_none_iff.mpr h)]
    | fence h _ ih => rw [parts_of_cut h.cut_eq, ih]
  · rintro rfl
    exact splits_parts text

/-- The enclosed parts are the second, the fourth and so on, as long as there is another one behind them. -/
theorem getElem?_enclosed (ps : List (List Char)) (k : Nat) :
    (enclosed ps)[k]? = if 2 * k + 2 < ps.length then ps[2 * k + 1]? else none := by
  fun_induction enclosed ps generalizing k with
  | case1 a body next rest ih =>
    cases k with
    | zero => simp
    | succ k =>
      have hlength : 2 * (k + 1) + 2 < (a :: body :: next :: rest).length ↔ 2 * k + 2 < (next :: rest).length := by
        simp only [List.length_cons]
        omega
      rw [List.getElem?_cons_succ, ih]
      simp only [hlength]
      rfl
  | case2 ps hshort =>
    have hlength : ¬ 2 * k + 2 < ps.length := by
      match ps, hshort with
      | [], _ => simp
      | [_], _ => simp
      | [_, _], _ => simp
      | a :: body :: next :: rest, hshort => exact absurd rfl (hshort a body next rest)
    rw [if_neg hlength]
    rfl

/-! ## Reading -/

/-- What the text between two fences stands for: all of it, or what comes behind a first line that is blank or a tag. -/
inductive Reads : List Char → Snippet → Prop
  | oneLine {body : List Char} (h : '\n' ∉ body) :
      Reads body { language := Snippet.plaintext, code := String.ofList body, suggested := none }
  | untagged {line code : List Char} (hline : '\n' ∉ line) (hblank : Text.trim line ≠ [])
      (htag : Snippet.isTag (Text.trim line) = false) :
      Reads (line ++ '\n' :: code)
        { language := Snippet.plaintext, code := String.ofList (line ++ '\n' :: code), suggested := none }
  | blank {line code : List Char} (hline : '\n' ∉ line) (hblank : Text.trim line = []) :
      Reads (line ++ '\n' :: code)
        { language := Snippet.plaintext, code := String.ofList code, suggested := FileHint.find? code }
  | tagged {line code : List Char} (hline : '\n' ∉ line) (htag : Snippet.isTag (Text.trim line) = true) :
      Reads (line ++ '\n' :: code)
        { language := String.ofList (Text.trim line), code := String.ofList code, suggested := FileHint.find? code }

theorem reads_ofBody (body : List Char) : Reads body (Snippet.ofBody body) := by
  by_cases hfeed : '\n' ∈ body
  · obtain ⟨line, code, rfl, hline⟩ := List.eq_append_cons_of_mem hfeed
    have hall : ∀ c ∈ line, (c != '\n') = true := fun c hc => bne_iff_ne.mpr fun h => hline (h ▸ hc)
    have hfirst : (line ++ '\n' :: code).takeWhile (· != '\n') = line := by
      rw [List.takeWhile_append_of_pos hall]
      simp
    simp only [Snippet.ofBody, hfirst, List.drop_left]
    split
    · rename_i htag
      exact .tagged hline htag
    · rename_i htag
      split
      · rename_i hblank
        exact .blank hline (List.isEmpty_iff.mp hblank)
      · rename_i hblank
        exact .untagged hline (fun h => hblank (List.isEmpty_iff.mpr h)) (Bool.eq_false_iff.mpr htag)
  · have hall : ∀ c ∈ body, (c != '\n') = true := fun c hc => bne_iff_ne.mpr fun h => hfeed (h ▸ hc)
    simp only [Snippet.ofBody, List.takeWhile_eq_self_iff.mpr hall, List.drop_length]
    exact .oneLine hfeed

/-- In any text, the blocks are the parts between the first and the second fence, the third and the fourth and so on,
and each of them is read by its first line. -/
theorem ofReply_pairs_fences (text : List Char) : ∃ parts, (∀ ps, Splits text ps ↔ ps = parts) ∧
    (∀ k, (Snippet.bodies text)[k]? = if 2 * k + 2 < parts.length then parts[2 * k + 1]? else none) ∧
    List.Forall₂ Reads (Snippet.bodies text) (Snippet.ofReply text) := by
  refine ⟨parts text, fun _ => splits_iff, fun k => ?_, ?_⟩
  · rw [bodies_eq, getElem?_enclosed]
  · exact List.forall₂_map_right_iff.mpr (List.forall₂_same.mpr fun body _ => reads_ofBody body)

/-- Of four backticks the first three are a fence, and the last fence has no partner. -/
example : Snippet.bodies "````a``` b ```c".toList = ["`a".toList] := by decide +kernel

end RiskGauge.Fence
