import Mathlib.Data.List.DropRight
import RiskGauge.Proofs.Failure
import RiskGauge.Proofs.Pattern.Words
import RiskGauge.Reply.Snippet

/-!
# File names that are safe

A file name that a reply asks for can be used as it stands (`SafeName`): it is relative, does not leave its folder and
ends in an extension with a letter.

* `exists_of_mem_ways_hint`, `forall_mem_group`: behind the words that ask for a file, a hint takes characters of file
  names and nothing else, so there are no blanks, colons or backslashes in it (`not_special`);
* `extension?_eq_some`: a name with an extension is what stands before a dot and the extension behind it;
* `safeName_of_usable`: what is cut off at the ends of a name leaves its extension alone, and a part of a name has two
  dots in a row only if the whole has;
* `suggestions_safe`: all names that are suggested for a reply or for one of its blocks are safe.
-/

namespace RiskGauge.FileHint

open Pattern
open Cursor (ofIndex)

variable {text name ext : List Char} {c : Char}

/-! ## Characters of names -/

theorem advances_cue : cue.Advances := by
  have hpart : (optional (either (anyCase "명") (anyCase "을"))).Advances := .optional (.of_isSimple (by decide))
  have hpart' : (optional (either (anyCase "은") (anyCase "을"))).Advances := .optional (.of_isSimple (by decide))
  have hblanks : blanks.Advances := .of_isSimple rfl
  refine .any ?_
  simp only [List.forall_mem_cons]
  refine ⟨.of_isSimple (by decide), .of_isSimple (by decide), .of_isSimple (by decide), .of_isSimple (by decide),
    .all ?_, fun _ h => nomatch h⟩
  simp only [List.forall_mem_cons]
  exact ⟨.of_isSimple (by decide), hpart, hblanks, hpart', hblanks, fun _ h => nomatch h⟩

/-- A hint is the words in front of a name, of any length, and a group of characters of names. -/
theorem exists_of_mem_ways_hint {t : Cursor} {n : Nat} (h : t ∈ hint.ways (ofIndex text n)) :
    ∃ i k, k ≤ ((text.drop i).takeWhile (oneAnyCase isNameChar)).length ∧
      t = (((ofIndex text i).openGroup 1).advance k).closeGroup 1 := by
  obtain ⟨u, hu, ht⟩ := mem_ways_seq.mp h
  obtain ⟨m, rfl⟩ := advances_cue _ _ hu
  obtain ⟨v, hv, rfl⟩ := mem_ways_group.mp ht
  obtain ⟨k, -, hk, rfl⟩ := mem_ways_span.mp hv
  rw [Cursor.ofIndex_advance] at hk ⊢
  exact ⟨n + m, k, hk, rfl⟩

/-- Only characters of names are taken for a name. -/
theorem forall_mem_group {m : Found} (h : m ∈ hint.findAll text) :
    ∀ c ∈ m.group 1, oneAnyCase isNameChar c = true := by
  have hends : ∀ i t, t ∈ hint.ways (ofIndex text i) → ∃ j, t.unmarked = ofIndex text j := by
    intro i t ht
    obtain ⟨j, k, -, rfl⟩ := exists_of_mem_ways_hint ht
    exact ⟨j + k, Cursor.ofIndex_advance text j k⟩
  obtain ⟨n, hstop⟩ := exists_ways_of_mem_findAll hends h
  obtain ⟨i, k, hk, hplace⟩ := exists_of_mem_ways_hint hstop
  obtain ⟨rest, hrest⟩ := List.takeWhile_prefix (oneAnyCase isNameChar) (l := text.drop i)
  have hgroup : m.group 1 = ((text.drop i).takeWhile (oneAnyCase isNameChar)).take k := by
    have hlength : k ≤ (text.drop i).length := hk.trans (List.takeWhile_prefix _).length_le
    rw [Found.group, hplace, (Cursor.sound_ofIndex text i).group?_closeGroup 1 hlength, Option.getD_some,
      Cursor.ofIndex_after, ← hrest, List.take_append_of_le_length hk, hrest]
  intro c hc
  rw [hgroup] at hc
  exact List.mem_takeWhile_imp (List.mem_of_mem_take hc)

theorem not_special (h : oneAnyCase isNameChar c = true) : c ≠ '\\' ∧ c ≠ ':' ∧ Text.isBlank c = false := by
  refine ⟨?_, ?_, ?_⟩
  · rintro rfl
    exact absurd h (by decide +kernel)
  · rintro rfl
    exact absurd h (by decide +kernel)
  · by_contra hblank
    have hno := Text.of_isBlank (p := fun c => oneAnyCase isNameChar c = false) (by decide +kernel)
      (Bool.of_not_eq_false hblank)
    rw [h] at hno
    cases hno

/-! ## Names -/

/-- Two numbers or more, with a dot between each and the next. -/
def DottedNumber (name : List Char) : Prop :=
  ∃ numbers : List (List Char), 2 ≤ numbers.length ∧ (∀ n ∈ numbers, n ≠ [] ∧ ∀ c ∈ n, Text.isDigit c = true) ∧
    name = List.intercalate ['.'] numbers

/-- The name of a file below the folder in which it is used. -/
structure SafeName (name : List Char) : Prop where
  ne_nil : name ≠ []
  relative : name.head? ≠ some '/'
  no_parent : ¬ ['.', '.'] <:+: name
  no_backslash : '\\' ∉ name
  no_colon : ':' ∉ name
  no_blank : ∀ c ∈ name, Text.isBlank c = false
  last : name.getLast? ≠ some '.'
  extension : ∃ stem ext, name = stem ++ '.' :: ext ∧ 1 ≤ ext.length ∧ ext.length ≤ 8 ∧
    (∀ c ∈ ext, Text.isAsciiAlnum c = true) ∧ ∃ c ∈ ext, Text.isAsciiLetter c = true
  no_version : ¬ DottedNumber name

theorem extension?_eq_some (h : extension? name = some ext) :
    ∃ stem, name = stem ++ '.' :: ext ∧ 1 ≤ ext.length ∧ ext.length ≤ 8 ∧
      ∀ c ∈ ext, Text.isAsciiAlnum c = true := by
  have hform : extension? name =
      if (name.rtakeWhile Text.isAsciiAlnum).isEmpty || 8 < (name.rtakeWhile Text.isAsciiAlnum).length then none
      else if (name.take (name.length - (name.rtakeWhile Text.isAsciiAlnum).length)).getLast? == some '.' then
        some (name.rtakeWhile Text.isAsciiAlnum)
      else none := rfl
  rw [hform] at h
  split at h
  · cases h
  · rename_i hlength
    split at h
    · rename_i hdot
      obtain rfl := Option.some.inj h
      obtain ⟨front, hfront⟩ := List.rtakeWhile_suffix Text.isAsciiAlnum name
      have hlengths := congrArg List.length hfront
      rw [List.length_append] at hlengths
      have htake : name.take (name.length - (name.rtakeWhile Text.isAsciiAlnum).length) = front := by
        rw [← hlengths, Nat.add_sub_cancel]
        exact (congrArg (List.take front.length) hfront).symm.trans List.take_left
      rw [htake, beq_iff_eq] at hdot
      obtain ⟨stem, rfl⟩ := List.getLast?_eq_some_iff.mp hdot
      rw [Bool.or_eq_true, not_or, List.isEmpty_iff, decide_eq_true_eq] at hlength
      refine ⟨stem, ?_, List.length_pos_iff.mpr hlength.1, Nat.le_of_not_lt hlength.2, fun c hc => ?_⟩
      · exact hfront.symm.trans (List.append_assoc ..)
      · exact List.mem_rtakeWhile_imp hc
    · cases h

theorem hasDoubleDot_iff : hasDoubleDot name = true ↔ ['.', '.'] <:+: name := by
  fun_induction hasDoubleDot name with
  | case1 rest => exact iff_of_true rfl ⟨[], rest, rfl⟩
  | case2 c rest hno ih =>
    rw [ih, List.infix_cons_iff]
    refine (or_iff_right ?_).symm
    rintro ⟨tail, htail⟩
    obtain ⟨rfl, rfl⟩ := List.cons.inj htail
    exact hno tail rfl rfl
  | case3 => simp

/-- Slashes in front of a name with an extension are in front of what comes before the extension. -/
theorem dropWhile_slash (stem ext : List Char) :
    (stem ++ '.' :: ext).dropWhile (· == '/') = stem.dropWhile (· == '/') ++ '.' :: ext := by
  rw [List.dropWhile_append]
  split
  · rename_i hnone
    rw [List.isEmpty_iff.mp hnone]
    rfl
  · rfl

theorem isDigit_of_isAsciiLetter (h : Text.isAsciiLetter c = true) : Text.isDigit c = false := by
  have hcode : 97 ≤ c.toNat ∧ c.toNat ≤ 122 ∨ 65 ≤ c.toNat ∧ c.toNat ≤ 90 := by
    simp only [Text.isAsciiLetter, Char.le_def, UInt32.le_iff_toNat_le, Bool.or_eq_true, Bool.and_eq_true,
      decide_eq_true_eq] at h
    exact h
  have hno : ¬ Text.isAsciiDigit c = true := by
    intro hdigit
    simp only [Text.isAsciiDigit, Char.le_def, UInt32.le_iff_toNat_le, Bool.and_eq_true, decide_eq_true_eq] at hdigit
    have hdigit : 48 ≤ c.toNat ∧ c.toNat ≤ 57 := hdigit
    omega
  have hascii : c.toNat < 0x80 := by omega
  simp [Text.isDigit, Text.digitValue?, hascii, hno]

theorem DottedNumber.digit_or_dot (h : DottedNumber name) : ∀ c ∈ name, c = '.' ∨ Text.isDigit c = true := by
  obtain ⟨numbers, -, hdigits, rfl⟩ := h
  induction numbers with
  | nil => exact fun _ hc => nomatch hc
  | cons n rest ih =>
    rw [List.forall_mem_cons] at hdigits
    cases rest with
    | nil =>
      intro c hc
      have hc : c ∈ n := by simpa [List.intercalate] using hc
      exact .inr (hdigits.1.2 c hc)
    | cons m rest =>
      have hsplit : List.intercalate ['.'] (n :: m :: rest) = n ++ '.' :: List.intercalate ['.'] (m :: rest) := by
        simp [List.intercalate]
      intro c hc
      rw [hsplit, List.mem_append, List.mem_cons] at hc
      obtain hc | rfl | hc := hc
      · exact .inr (hdigits.1.2 c hc)
      · exact .inl rfl
      · exact ih hdigits.2 c hc

/-- A name that can be used is safe without the slashes in front of it. -/
theorem safeName_of_usable (hchars : ∀ c ∈ name, oneAnyCase isNameChar c = true) (h : isUsable name = true) :
    SafeName (name.dropWhile (· == '/')) := by
  simp only [isUsable, Bool.and_eq_true, Bool.not_eq_true', Option.any_eq_true] at h
  obtain ⟨⟨⟨ext, hext, hletter⟩, -⟩, hdots⟩ := h
  obtain ⟨stem, rfl, hpos, hle, halnum⟩ := extension?_eq_some hext
  obtain ⟨c, hc, hcletter⟩ := List.any_eq_true.mp hletter
  have hsuffix := List.dropWhile_suffix (l := stem ++ '.' :: ext) (· == '/')
  have hspecial : ∀ d ∈ (stem ++ '.' :: ext).dropWhile (· == '/'), d ≠ '\\' ∧ d ≠ ':' ∧ Text.isBlank d = false :=
    fun d hd => not_special (hchars d (hsuffix.subset hd))
  have hshape := dropWhile_slash stem ext
  refine ⟨?_, ?_, ?_, ?_, ?_, fun d hd => (hspecial d hd).2.2, ?_, ?_, ?_⟩
  · rw [hshape]
    simp
  · intro hslash
    have hhead := List.head?_dropWhile_not (· == '/') (stem ++ '.' :: ext)
    rw [hslash] at hhead
    cases hhead
  · intro hparent
    rw [hasDoubleDot_iff.mpr (hparent.trans hsuffix.isInfix)] at hdots
    cases hdots
  · exact fun hd => (hspecial _ hd).1 rfl
  · exact fun hd => (hspecial _ hd).2.1 rfl
  · intro hlast
    have hne : ext ≠ [] := List.length_pos_iff.mp hpos
    rw [hshape, List.getLast?_append, List.getLast?_cons, List.getLast?_eq_some_getLast hne] at hlast
    have hdot : '.' ∈ ext := Option.some.inj hlast ▸ List.getLast_mem hne
    exact absurd (halnum '.' hdot) (by decide)
  · exact ⟨_, ext, hshape, hpos, hle, halnum, c, hc, hcletter⟩
  · intro hversion
    have hmem : c ∈ (stem ++ '.' :: ext).dropWhile (· == '/') := by
      rw [hshape]
      simp [hc]
    obtain rfl | hdigit := hversion.digit_or_dot c hmem
    · cases hcletter
    · rw [isDigit_of_isAsciiLetter hcletter] at hdigit
      cases hdigit

theorem find?_safe {suggested : String} (h : find? text = some suggested) : SafeName suggested.toList := by
  unfold find? at h
  split at h
  · cases h
  · rename_i name hlast
    split at h
    · rename_i husable
      obtain rfl := Option.some.inj h
      obtain ⟨hmem, -⟩ := List.mem_filter.mp (List.mem_of_getLast? hlast)
      obtain ⟨m, hm, rfl⟩ := List.mem_map.mp hmem
      have hkept : dropDots (m.group 1) <+: m.group 1 := List.rdropWhile_prefix (· == '.') (m.group 1)
      rw [String.toList_ofList]
      exact safeName_of_usable (fun c hc => forall_mem_group hm c (hkept.subset hc)) husable
    · cases h

/-! ## Suggestions -/

/-- A name that is suggested for a block is one that a part of the block asks for. -/
theorem exists_find?_of_ofBody {body : List Char} {suggested : String}
    (h : (Snippet.ofBody body).suggested = some suggested) : ∃ code, find? code = some suggested := by
  unfold Snippet.ofBody at h
  dsimp only at h
  split at h
  · cases h
  · rename_i rest hrest
    split at h
    · exact ⟨rest, h⟩
    · split at h
      · exact ⟨rest, h⟩
      · cases h

theorem mem_of_choose {blocks : List Snippet} {index : Option Int} {s : Snippet}
    (h : Snippet.choose blocks index = .ok s) : s ∈ blocks := by
  unfold Snippet.choose at h
  dsimp only at h
  split at h
  · rename_i hplace
    obtain rfl := Except.ok.inj h
    obtain ⟨-, hget⟩ := Option.ite_none_left_eq_some.mp hplace
    exact List.mem_of_getElem? hget
  · cases h

/-- A file name that a reply asks for, that is suggested for one of its blocks or for the snippet that counts is the
name of a file below the folder in which it is used. -/
theorem suggestions_safe (text : List Char) :
    (∀ name, find? text = some name → SafeName name.toList) ∧
    (∀ s ∈ Snippet.ofReply text, ∀ name, s.suggested = some name → SafeName name.toList) ∧
    ∀ index s, Snippet.primary text index = .ok s → ∀ name, s.suggested = some name → SafeName name.toList := by
  have hblock : ∀ s ∈ Snippet.ofReply text, ∀ name, s.suggested = some name → SafeName name.toList := by
    intro s hs name hname
    obtain ⟨body, -, rfl⟩ := List.mem_map.mp hs
    obtain ⟨code, hcode⟩ := exists_find?_of_ofBody hname
    exact find?_safe hcode
  refine ⟨fun _ => find?_safe, hblock, fun index s h name hname => ?_⟩
  unfold Snippet.primary at h
  dsimp only at h
  split at h
  · obtain rfl := Except.ok.inj h
    exact find?_safe hname
  · obtain ⟨chosen, hchosen, h⟩ := bind_eq_ok.mp h
    obtain rfl := pure_eq_ok.mp h
    cases hhint : find? text with
    | some hint =>
      rw [hhint] at hname
      obtain rfl : hint = name := Option.some.inj hname
      exact find?_safe hhint
    | none =>
      rw [hhint] at hname
      exact hblock chosen (mem_of_choose hchosen) name hname

/-- The name for the reply has slashes in front and dots behind it, and the block asks for another one. -/
theorem suggestions_safe_util :
    let text := "```ts\n// create ./a.ts\n```\nSave as //lib/v1.2.js...".toList
    find? text = some "lib/v1.2.js" ∧ SafeName "lib/v1.2.js".toList ∧
      Snippet.ofReply text = [{ language := "ts", code := "// create ./a.ts\n", suggested := some "./a.ts" }] ∧
      SafeName "./a.ts".toList ∧
      Snippet.primary text none =
        .ok { language := "ts", code := "// create ./a.ts\n", suggested := some "lib/v1.2.js" } := by
  intro text
  have hfind : find? text = some "lib/v1.2.js" := by decide +kernel
  have hblocks : Snippet.ofReply text =
      [{ language := "ts", code := "// create ./a.ts\n", suggested := some "./a.ts" }] := by decide +kernel
  obtain ⟨hreply, hblock, -⟩ := suggestions_safe text
  exact ⟨hfind, hreply _ hfind, hblocks, hblock _ (hblocks ▸ List.mem_cons_self) _ rfl, by decide +kernel⟩

end RiskGauge.FileHint
