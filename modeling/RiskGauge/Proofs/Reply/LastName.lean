import RiskGauge.Proofs.Reply.Asked
import RiskGauge.Proofs.Reply.SafeName

/-!
# The last name that a text asks for

The last name with an extension is the one that counts, and it is looked at only then whether it can be used. So a name
at the end of a text is not always found, and a name that was found can be lost again:

* `last_hint_read`: a name behind `file:` at the end of a text is the one that is found, unless the text in front of it
  breaks off where a name is asked for. Then the word `file` is taken for that name, and the name is not seen
  (`explicit_hint_missed`);
* `version_after_name`: a version number that follows hides the name, unless its last number is too long for an
  extension or the words in front of it are taken for a name (`version_hides_name`).
-/

namespace RiskGauge.FileHint

open Pattern
open Text (isBlank isDigit isWord sameLetter variants)

variable {text name ext front version : List Char} {names : List (List Char)} {c : Char}

/-! ## Names with an extension -/

theorem rtakeWhile_append_cons {p : Char → Bool} (stem : List Char) (hc : p c = false) (h : ∀ d ∈ ext, p d = true) :
    (stem ++ c :: ext).rtakeWhile p = ext := by
  have hreverse : (stem ++ c :: ext).reverse = ext.reverse ++ c :: stem.reverse := by simp
  rw [List.rtakeWhile, hreverse, List.takeWhile_append_of_pos fun d hd => h d (List.mem_reverse.mp hd),
    List.takeWhile_cons_of_neg (by simp [hc]), List.append_nil, List.reverse_reverse]

/-- Letters and digits behind a dot are an extension unless there are too many. -/
theorem extension?_append (stem : List Char) (h : ∀ c ∈ ext, Text.isAsciiAlnum c = true) :
    extension? (stem ++ '.' :: ext) = if ext = [] ∨ 8 < ext.length then none else some ext := by
  have htail : (((stem ++ '.' :: ext).reverse).takeWhile Text.isAsciiAlnum).reverse = ext :=
    rtakeWhile_append_cons stem (by decide) h
  have hstem : ((stem ++ '.' :: ext).take ((stem ++ '.' :: ext).length - ext.length)).getLast? = some '.' := by
    have hsplit : stem ++ '.' :: ext = (stem ++ ['.']) ++ ext := by simp
    rw [hsplit, List.length_append, Nat.add_sub_cancel, List.take_left, List.getLast?_append]
    rfl
  simp only [extension?, htail, hstem, beq_self_eq_true, if_true, Bool.or_eq_true, List.isEmpty_iff, decide_eq_true_eq]

theorem dropDots_of_last (h : name.getLast? ≠ some '.') : dropDots name = name := by
  rw [← List.head?_reverse] at h
  rw [dropDots, Text.dropWhile_beq_of_head? h, List.reverse_reverse]

theorem dropDots_append (stem : List Char) (hne : ext ≠ []) (hdot : '.' ∉ ext) :
    dropDots (stem ++ '.' :: ext) = stem ++ '.' :: ext := by
  refine dropDots_of_last fun hlast => hdot ?_
  rw [List.getLast?_append, List.getLast?_cons, List.getLast?_eq_some_getLast hne] at hlast
  exact Option.some.inj hlast ▸ List.getLast_mem hne

theorem mem_of_mem_dropDots (h : c ∈ dropDots name) : c ∈ name :=
  (List.rdropWhile_prefix (· == '.') name).subset h

theorem digit_or_dot_of_isVersion (h : isVersion name = true) : ∀ c ∈ name, c = '.' ∨ isDigit c = true := by
  have hgo : ∀ digits dots, isVersion.go digits dots name = true → ∀ c ∈ name, c = '.' ∨ isDigit c = true := by
    clear h
    induction name with
    | nil => exact fun _ _ _ _ hc => absurd hc List.not_mem_nil
    | cons c name ih =>
      intro digits dots h
      rw [isVersion.go] at h
      rw [List.forall_mem_cons]
      split at h
      · rename_i hdot
        rw [Bool.and_eq_true] at h
        exact ⟨.inl (beq_iff_eq.mp hdot), ih _ _ h.2⟩
      · rw [Bool.and_eq_true] at h
        exact ⟨.inr h.1, ih _ _ h.2⟩
  exact hgo false false h

/-- A name with a letter in its extension is no version number. -/
theorem isUsable_of_letter (hext : extension? name = some ext) (hc : c ∈ ext) (hletter : Text.isAsciiLetter c = true)
    (hdots : ¬ ['.', '.'] <:+: name) : isUsable name = true := by
  have hversion : isVersion name = false := by
    by_contra hversion
    obtain ⟨stem, rfl, -⟩ := extension?_eq_some hext
    obtain rfl | hdigit := digit_or_dot_of_isVersion (Bool.of_not_eq_false hversion) c (by simp [hc])
    · cases hletter
    · rw [isDigit_of_isAsciiLetter hletter] at hdigit
      cases hdigit
  have hparent : hasDoubleDot name = false := Bool.eq_false_iff.mpr (mt hasDoubleDot_iff.mp hdots)
  have hany : ext.any Text.isAsciiLetter = true := List.any_eq_true.mpr ⟨c, hc, hletter⟩
  simp [isUsable, hext, hany, hversion, hparent]

/-- Digits and dots alone are not the name of a file. -/
theorem isUsable_of_digits (h : ∀ c ∈ name, c = '.' ∨ isDigit c = true) : isUsable name = false := by
  have hany : ((extension? name).any fun e => e.any Text.isAsciiLetter) = false := by
    cases hext : extension? name with
    | none => rfl
    | some ext =>
      obtain ⟨stem, rfl, -⟩ := extension?_eq_some hext
      refine List.any_eq_false.mpr fun c hc hletter => ?_
      obtain rfl | hdigit := h c (by simp [hc])
      · cases hletter
      · rw [isDigit_of_isAsciiLetter hletter] at hdigit
        cases hdigit
  simp [isUsable, hany]

/-! ## The last candidate -/

theorem candidates_of_asked (h : asked text = asked front ++ names) :
    candidates text = candidates front ++ (names.map dropDots).filter fun name => (extension? name).isSome := by
  rw [candidates_eq, candidates_eq, h, List.map_append, List.filter_append]

/-- A word without an extension that is taken for a name changes nothing. -/
theorem find?_of_dropped (h : asked text = asked front ++ names)
    (hnone : ∀ name ∈ names, extension? (dropDots name) = none) : find? text = find? front := by
  have hdropped : (names.map dropDots).filter (fun name => (extension? name).isSome) = [] := by
    simpa [List.filter_eq_nil_iff] using hnone
  rw [find?, find?, candidates_of_asked h, hdropped, List.append_nil]

/-- A name with an extension at the end is the only one that is looked at. -/
theorem find?_of_last (h : asked text = asked front ++ [name]) (hext : (extension? (dropDots name)).isSome = true) :
    find? text = if isUsable (dropDots name) then some (String.ofList ((dropDots name).dropWhile (· == '/')))
      else none := by
  have hkept : ([name].map dropDots).filter (fun name => (extension? name).isSome) = [dropDots name] := by simp [hext]
  rw [find?, candidates_of_asked h, hkept, List.getLast?_append]
  rfl

/-! ## A name at the end of a text -/

theorem isTaken_of_isNameChar (h : isNameChar c = true) : isTaken c = true := by
  simp [isTaken, oneAnyCase, h]

theorem AsksHere.isInitial_head {prev : Option Char} (h : AsksHere prev (c :: text)) : isInitial c = true := by
  obtain ⟨w, run, rest, heq, hcue, -⟩ := h
  obtain ⟨⟨d, v, rfl, hinitial, -⟩, -, -⟩ := cueShape_of_mem hcue.1
  exact (List.cons.inj heq).1 ▸ hinitial

/-- A file name of ASCII letters, digits and some signs, below the folder in which it is used, with an extension of
letters. -/
structure PlainName (name : List Char) : Prop where
  chars : ∀ c ∈ name, isNameChar c = true
  relative : name.head? ≠ some '/'
  no_parent : ¬ ['.', '.'] <:+: name
  extension : ∃ stem ext, name = stem ++ '.' :: ext ∧ 1 ≤ ext.length ∧ ext.length ≤ 8 ∧
    ∀ c ∈ ext, Text.isAsciiLetter c = true

namespace PlainName

theorem isRun (h : PlainName name) : IsRun name [] := by
  refine ⟨?_, fun c hc => isTaken_of_isNameChar (h.chars c hc), fun _ hc => nomatch hc⟩
  obtain ⟨stem, ext, rfl, -⟩ := h.extension
  simp

/-- The name is kept as it is. -/
theorem find?_eq (h : PlainName name) (hasked : asked text = asked front ++ [name]) :
    find? text = some (String.ofList name) := by
  obtain ⟨stem, ext, hname, hpos, hle, hletters⟩ := h.extension
  obtain ⟨c, ext, rfl⟩ := List.exists_cons_of_ne_nil (List.length_pos_iff.mp hpos)
  have halnum : ∀ d ∈ c :: ext, Text.isAsciiAlnum d = true := fun d hd => by simp [Text.isAsciiAlnum, hletters d hd]
  have hext : extension? name = some (c :: ext) := by
    rw [hname, extension?_append stem halnum, if_neg]
    simp only [List.cons_ne_nil, false_or]
    omega
  have hdots : dropDots name = name := by
    rw [hname]
    exact dropDots_append stem (List.cons_ne_nil c ext) fun hdot => absurd (halnum '.' hdot) (by decide)
  have husable := isUsable_of_letter hext List.mem_cons_self (hletters c List.mem_cons_self) h.no_parent
  have hslash : name.dropWhile (· == '/') = name := Text.dropWhile_beq_of_head? h.relative
  rw [find?_of_last hasked (by rw [hdots, hext]; rfl), hdots, husable, hslash, if_pos rfl]

end PlainName

theorem spells_self (word : String) : Spells word word.toList :=
  List.forall₂_same.mpr fun c _ => by simp [sameLetter]

theorem blank_space : Blank [' '] := by
  simp only [Blank, List.mem_singleton, forall_eq]
  decide

theorem cue_file : Cue none "file: ".toList := by
  refine ⟨mem_cueWords_iff.mpr (.inl ⟨_, List.mem_cons_self, ?_⟩), .inl rfl⟩
  simp only [mem_language_all_cons, mem_language_all_nil, mem_language_anyCase, mem_language_blanks, mem_language_one]
  exact ⟨_, spells_self "file", _, ⟨[], by simp [Blank], _, ⟨_, ⟨':', rfl, rfl⟩, _,
    ⟨_, blank_space, _, rfl, rfl⟩, rfl⟩, rfl⟩, rfl⟩

theorem cue_make : Cue none "make ".toList := by
  refine ⟨mem_cueWords_iff.mpr (.inl ⟨[anyCase "make", gap], by simp [latinCues], ?_⟩), .inl rfl⟩
  simp only [mem_language_all_cons, mem_language_all_nil, mem_language_anyCase, mem_language_gap]
  exact ⟨_, spells_self "make", _, ⟨_, ⟨List.cons_ne_nil _ _, blank_space⟩, _, rfl, rfl⟩, rfl⟩

/-- A name behind `file:` at the end of a text is the name that is found, unless the text in front of it breaks off
where a name is asked for: it ends in words that ask for a file, the word `file` is taken for the name, and the last
name of the text in front is found instead. -/
theorem last_hint_read (hblank : ∀ b ∈ front.getLast?, isBlank b = true) (hname : PlainName name) :
    find? (front ++ ("file: ".toList ++ name)) =
      (if awaitsName front then find? front else some (String.ofList name)) ∧
    (awaitsName front = true → ∃ before w, front = before ++ w ∧ w ∈ cueWords.language) := by
  have hfollower : ∀ c ∈ some 'f', isFollower c = false := by
    simp only [Option.mem_some, forall_eq']
    decide
  obtain ⟨hawaits, hsplit⟩ | ⟨hawaits, hends, hnext⟩ := asked_split hblank
  · have hread : Asks none ("file: ".toList ++ (name ++ [])) [name] := .take cue_file hname.isRun (.nil _)
    have hasked := hsplit ("file: ".toList ++ name) hfollower
    rw [List.append_nil] at hread
    rw [hread.asked_eq] at hasked
    rw [hawaits, hname.find?_eq hasked]
    exact ⟨rfl, fun h => nomatch h⟩
  · have hrun : IsRun "file".toList (": ".toList ++ name) :=
      ⟨List.cons_ne_nil _ _, List.all_eq_true.mp (by decide), fun c hc => by
        obtain rfl : ':' = c := Option.some.inj hc
        decide⟩
    have hmore : Asks (some 'e') (": ".toList ++ name) [] := by
      obtain ⟨names, hnames⟩ := exists_asks (some ' ') name
      obtain rfl := hnames.eq_nil_of_taken hname.isRun.taken
      exact .skip (fun h => absurd h.isInitial_head (by decide))
        (.skip (fun h => absurd h.isInitial_head (by decide)) hnames)
    have hasked := hnext "file".toList (": ".toList ++ name) [] hrun hfollower hmore
    have hdropped : find? (front ++ ("file".toList ++ (": ".toList ++ name))) = find? front :=
      find?_of_dropped hasked (by simp only [List.mem_singleton, forall_eq]; decide)
    rw [hawaits]
    exact ⟨hdropped, fun _ => hends⟩

theorem isBlank_of_mem_space : ∀ b ∈ some ' ', isBlank b = true := by
  simp only [Option.mem_some, forall_eq']
  decide

theorem plainName_ts : PlainName "a.ts".toList where
  chars := List.all_eq_true.mp (by decide)
  relative := by decide
  no_parent := by
    rw [← hasDoubleDot_iff]
    decide
  extension := ⟨"a".toList, "ts".toList, rfl, by decide, by decide, List.all_eq_true.mp (by decide)⟩

/-- The second `create` is the name that the first one asks for, so the name at the end is found. Behind `make` it is
not, and the name in front is. -/
theorem last_hint_behind_words :
    (∀ b ∈ "create create ".toList.getLast?, isBlank b = true) ∧ PlainName "a.ts".toList ∧
      find? ("create create ".toList ++ ("file: ".toList ++ "a.ts".toList)) = some "a.ts" ∧
      (∀ b ∈ "create b.ts and make ".toList.getLast?, isBlank b = true) ∧
      find? ("create b.ts and make ".toList ++ ("file: ".toList ++ "a.ts".toList)) = some "b.ts" := by
  have hblank : ∀ b ∈ "create create ".toList.getLast?, isBlank b = true := isBlank_of_mem_space
  have hblank' : ∀ b ∈ "create b.ts and make ".toList.getLast?, isBlank b = true := isBlank_of_mem_space
  have hread := (last_hint_read hblank plainName_ts).1
  have hlost := (last_hint_read hblank' plainName_ts).1
  rw [if_neg (by decide +kernel)] at hread
  rw [if_pos (by decide +kernel)] at hlost
  exact ⟨hblank, plainName_ts, hread, hblank', hlost.trans (by decide +kernel)⟩

/-- The text asks for the name twice, and no name is found. -/
theorem explicit_hint_missed :
    (∀ b ∈ "create ".toList.getLast?, isBlank b = true) ∧ PlainName "a.ts".toList ∧
      find? ("create ".toList ++ ("file: ".toList ++ "a.ts".toList)) = none :=
  ⟨isBlank_of_mem_space, plainName_ts, by decide +kernel⟩

/-! ## A version number behind a name -/

/-- No words that ask for a file begin with a digit, and none go on with one behind a blank. -/
theorem not_initial_of_isDigit (h : isDigit c = true) : isInitial c = false ∧ isFollower c = false := by
  have hletter : ∀ a ∈ "fmcsa".toList, sameLetter a c = false := by
    intro a ha
    have hcheck : ("fmcsa".toList.all fun a => (variants a).all fun d => !isDigit d) = true := by decide +kernel
    by_contra hsame
    have hvariant := Text.mem_variants_of_sameLetter (Bool.of_not_eq_false hsame)
    have hdigit := List.all_eq_true.mp (List.all_eq_true.mp hcheck a ha) c hvariant
    rw [h] at hdigit
    cases hdigit
  have hblank : isBlank c = false := by
    by_contra hblank
    have hdigit := Text.of_isBlank (p := fun c => isDigit c = false) (by decide +kernel) (Bool.of_not_eq_false hblank)
    rw [h] at hdigit
    cases hdigit
  have hsign : ∀ d ∈ ['파', ':', '=', '일', '명', '을', '은'], c ≠ d := by
    rintro d hd rfl
    have hcheck : (['파', ':', '=', '일', '명', '을', '은'].all fun d => !isDigit d) = true := by decide
    have hdigit := List.all_eq_true.mp hcheck c hd
    rw [h] at hdigit
    cases hdigit
  simp only [String.reduceToList, List.forall_mem_cons] at hletter hsign
  simp [isInitial, isFollower, wordLetters, hletter, hblank, hsign]

/-- In front of words in which no cue begins, only its first character counts. -/
theorem isChain_noCue {v : List Char} {b : Char} (hu : ∀ d ∈ text, isInitial d = false) (hb : isInitial b = false)
    (hv : (b :: v).IsChain NoCue) : (c :: (text ++ b :: v)).IsChain NoCue := by
  have hlink : ∀ {c d : Char}, isInitial d = false → NoCue c d := fun hd hinitial => by
    rw [hd] at hinitial
    cases hinitial
  induction text generalizing c with
  | nil => exact List.isChain_cons_cons.mpr ⟨hlink hb, hv⟩
  | cons d text ih =>
    rw [List.forall_mem_cons] at hu
    exact List.isChain_cons_cons.mpr ⟨hlink hu.1, ih hu.2⟩

theorem DottedNumber.exists_cons (h : DottedNumber version) : ∃ d rest, version = d :: rest ∧ isDigit d = true := by
  obtain ⟨numbers, hlength, hdigits, rfl⟩ := h
  match numbers, hlength with
  | n :: m :: numbers, _ =>
    obtain ⟨hne, hn⟩ := hdigits n List.mem_cons_self
    obtain ⟨d, n, rfl⟩ := List.exists_cons_of_ne_nil hne
    exact ⟨d, _, rfl, hn d List.mem_cons_self⟩

/-- The last number stands behind a dot. -/
theorem DottedNumber.exists_last (h : DottedNumber version) :
    ∃ stem last, version = stem ++ '.' :: last ∧ last ≠ [] ∧ ∀ c ∈ last, isDigit c = true := by
  obtain ⟨numbers, hlength, hdigits, rfl⟩ := h
  induction numbers with
  | nil => cases hlength
  | cons n numbers ih =>
    rw [List.forall_mem_cons] at hdigits
    match numbers, hlength with
    | [m], _ =>
      obtain ⟨hne, hm⟩ := hdigits.2 m List.mem_cons_self
      exact ⟨n, m, by simp [List.intercalate], hne, hm⟩
    | m :: k :: numbers, _ =>
      obtain ⟨stem, last, hsplit, hlast⟩ := ih (by simp) hdigits.2
      refine ⟨n ++ '.' :: stem, last, ?_, hlast⟩
      have hcons : List.intercalate ['.'] (n :: m :: k :: numbers) =
          n ++ '.' :: List.intercalate ['.'] (m :: k :: numbers) := by simp [List.intercalate]
      rw [hcons, hsplit, List.append_assoc, List.cons_append]

/-- Digits and dots in front of the last words ask for nothing. -/
theorem isChain_version (h : ∀ d ∈ version, d = '.' ∨ isDigit d = true) :
    (c :: (version ++ " the version".toList)).IsChain NoCue := by
  refine isChain_noCue (fun d hd => ?_) (by decide) (by decide)
  obtain rfl | hdigit := h d hd
  · decide
  · exact (not_initial_of_isDigit hdigit).1

/-- A character that neither is taken for a name nor goes on with the words leaves them without a name. -/
theorem not_asksHere_cue {prev : Option Char} {w : List Char} (hw : Cue prev w)
    (hblank : ∀ b ∈ w.getLast?, isBlank b = true) (htaken : isTaken c = false) (hfollower : isFollower c = false) :
    ¬ AsksHere prev (w ++ c :: text) := by
  rintro ⟨w', run, rest, heq, hw', hrun⟩
  obtain ⟨d, run, rfl⟩ := List.exists_cons_of_ne_nil hrun.ne_nil
  have hd := hrun.taken d List.mem_cons_self
  -- of two words at one place the longer one would go on with the character, or with the name
  obtain ⟨v, rfl, hv⟩ | ⟨v, rfl, hv⟩ := List.append_eq_append_iff.mp heq
  · cases v with
    | nil =>
      rw [(List.cons.inj hv).1, hd] at htaken
      cases htaken
    | cons e v =>
      rw [← (List.cons.inj hv).1] at hw'
      rw [hw'.isFollower_of_append hw.ne_nil hblank] at hfollower
      cases hfollower
  · cases v with
    | nil =>
      rw [← (List.cons.inj hv).1, hd] at htaken
      cases htaken
    | cons e v =>
      rw [← (List.cons.inj hv).1] at hw
      exact not_mem_of_append hw'.1 hd hw.1

/-- The part of a version number that is taken for a name is the only one. -/
theorem asked_make_version (h : DottedNumber version) :
    asked ("make ".toList ++ (version ++ " the version".toList)) =
      if version.takeWhile isTaken = [] then [] else [version.takeWhile isTaken] := by
  have hdigits := h.digit_or_dot
  obtain ⟨d, rest, rfl, hd⟩ := h.exists_cons
  by_cases htaken : isTaken d = true
  · have hrun : IsRun ((d :: rest).takeWhile isTaken) ((d :: rest).dropWhile isTaken) := isRun_takeWhile htaken
    have hsplit : (d :: rest) ++ " the version".toList = (d :: rest).takeWhile isTaken ++
        ((d :: rest).dropWhile isTaken ++ " the version".toList) := by
      rw [← List.append_assoc, List.takeWhile_append_dropWhile]
    have hspace : ∀ c ∈ some ' ', isTaken c = false := by
      simp only [Option.mem_some, forall_eq']
      decide
    have hrun' : IsRun ((d :: rest).takeWhile isTaken) ((d :: rest).dropWhile isTaken ++ " the version".toList) :=
      hrun.append_stop hspace
    obtain ⟨more, hmore⟩ := exists_asks ((d :: rest).takeWhile isTaken).getLast?
      ((d :: rest).dropWhile isTaken ++ " the version".toList)
    obtain rfl : more = [] := by
      rw [List.getLast?_eq_some_getLast hrun.ne_nil] at hmore
      exact hmore.eq_nil (isChain_version fun c hc => hdigits c (List.dropWhile_subset _ hc))
    rw [if_neg hrun.ne_nil, hsplit]
    exact (Asks.take cue_make hrun' hmore).asked_eq
  · have hhere : ¬ AsksHere none ("make ".toList ++ (d :: (rest ++ " the version".toList))) :=
      not_asksHere_cue cue_make isBlank_of_mem_space (Bool.eq_false_iff.mpr htaken) (not_initial_of_isDigit hd).2
    have hword : ∀ c ∈ "ake".toList, isInitial c = false := by
      have hcheck : ("ake".toList.all fun c => !isInitial c) = true := by decide
      exact fun c hc => by simpa using List.all_eq_true.mp hcheck c hc
    obtain ⟨more, hmore⟩ := exists_asks (some 'm') ("ake".toList ++ ' ' :: (d :: rest ++ " the version".toList))
    obtain rfl := hmore.eq_nil (isChain_noCue hword (by decide) (isChain_version hdigits))
    rw [List.takeWhile_cons_of_neg htaken, if_pos rfl]
    exact (Asks.skip hhere hmore).asked_eq

/-- The last number of a version is an extension if it is short enough. -/
theorem extension?_version (h : DottedNumber version) (hchars : ∀ c ∈ version, isNameChar c = true) :
    extension? (dropDots (version.takeWhile isTaken)) = none ↔ 8 < (version.rtakeWhile (· != '.')).length := by
  have hall : version.takeWhile isTaken = version :=
    List.takeWhile_eq_self_iff.mpr fun c hc => isTaken_of_isNameChar (hchars c hc)
  obtain ⟨stem, last, rfl, hne, hdigits⟩ := h.exists_last
  have hdot : '.' ∉ last := fun hdot => absurd (hdigits '.' hdot) (by decide)
  have halnum : ∀ c ∈ last, Text.isAsciiAlnum c = true := by
    intro c hc
    have hname := hchars c (by simp [hc])
    have hdigit := hdigits c hc
    simp only [isNameChar, Bool.or_eq_true, beq_iff_eq] at hname
    obtain (((halnum | rfl) | rfl) | rfl) | rfl := hname
    · exact halnum
    all_goals exact absurd hdigit (by decide)
  have hlast : (stem ++ '.' :: last).rtakeWhile (· != '.') = last :=
    rtakeWhile_append_cons stem rfl fun c hc => bne_iff_ne.mpr fun hc' => hdot (hc' ▸ hc)
  rw [hall, dropDots_append stem hne hdot, extension?_append stem halnum, hlast]
  simp [hne]

/-- What is taken of a version number is no name that can be used. -/
theorem find?_of_version (hdigits : ∀ c ∈ version, c = '.' ∨ isDigit c = true)
    (hasked : asked text = asked front ++
      if version.takeWhile isTaken = [] then [] else [version.takeWhile isTaken]) :
    find? text = if extension? (dropDots (version.takeWhile isTaken)) = none then find? front else none := by
  by_cases hext : extension? (dropDots (version.takeWhile isTaken)) = none
  · rw [if_pos hext]
    refine find?_of_dropped hasked fun name hname => ?_
    split at hname
    · cases hname
    · rwa [List.mem_singleton.mp hname]
  · have hne : version.takeWhile isTaken ≠ [] := by
      intro hnil
      rw [hnil] at hext
      exact hext rfl
    have hunusable : isUsable (dropDots (version.takeWhile isTaken)) = false :=
      isUsable_of_digits fun c hc => hdigits c (List.takeWhile_subset _ (mem_of_mem_dropDots hc))
    rw [if_neg hne] at hasked
    rw [if_neg hext, find?_of_last hasked (Option.isSome_iff_ne_none.mpr hext), hunusable]
    rfl

/-- Behind words that wait for a name, `make` is the name and the version number is not read. -/
theorem asks_behind_make (hdigits : ∀ c ∈ version, c = '.' ∨ isDigit c = true) :
    IsRun "make".toList (' ' :: (version ++ " the version".toList)) ∧
      Asks (some 'e') (' ' :: (version ++ " the version".toList)) [] := by
  have hspace : isTaken ' ' = false ∧ isInitial ' ' = false := by decide
  refine ⟨⟨List.cons_ne_nil _ _, List.all_eq_true.mp (by decide), ?_⟩, ?_⟩
  · intro c hc
    obtain rfl : ' ' = c := Option.some.inj hc
    exact hspace.1
  · obtain ⟨more, hmore⟩ := exists_asks (some 'e') (' ' :: (version ++ " the version".toList))
    obtain rfl := hmore.eq_nil (isChain_noCue (List.forall_mem_nil _) hspace.2 (isChain_version hdigits))
    exact hmore

theorem find?_concat_blank {b : Char} (text : List Char) (hb : isBlank b = true) : find? (text ++ [b]) = find? text :=
  find?_of_dropped (by rw [asked_concat_blank text hb, List.append_nil]) (List.forall_mem_nil _)

/-- A version number that a text with a name asks for at its end hides the name: none is found any more. The name is
kept only if there is no extension in what is taken of the version number, which for one of ASCII digits means that its
last number has more than eight, or if the text breaks off where a name is asked for, so that `make` is taken for it. -/
theorem version_after_name {found : String} (h : find? text = some found) (hversion : DottedNumber version) :
    find? (text ++ ("\nmake ".toList ++ (version ++ " the version".toList))) =
      (if awaitsName (text ++ ['\n']) = true ∨ extension? (dropDots (version.takeWhile isTaken)) = none then some found
        else none) ∧
    ((∀ c ∈ version, isNameChar c = true) → (extension? (dropDots (version.takeWhile isTaken)) = none ↔
      8 < (version.rtakeWhile (· != '.')).length)) ∧
    (awaitsName (text ++ ['\n']) = true → ∃ before w, text ++ ['\n'] = before ++ w ∧ w ∈ cueWords.language) := by
  have hbreak : isBlank '\n' = true := by decide
  have hblank : ∀ b ∈ (text ++ ['\n']).getLast?, isBlank b = true := by simpa using hbreak
  have hfollower : ∀ c ∈ some 'm', isFollower c = false := by
    simp only [Option.mem_some, forall_eq']
    decide
  have hassoc : text ++ ("\nmake ".toList ++ (version ++ " the version".toList)) =
      text ++ ['\n'] ++ ("make ".toList ++ (version ++ " the version".toList)) := by simp
  have hdigits := hversion.digit_or_dot
  have hkept : find? (text ++ ['\n']) = some found := (find?_concat_blank text hbreak).trans h
  rw [hassoc]
  obtain ⟨hawaits, hsplit⟩ | ⟨hawaits, hends, hnext⟩ := asked_split hblank
  · have hasked := hsplit ("make ".toList ++ (version ++ " the version".toList)) hfollower
    rw [asked_make_version hversion] at hasked
    refine ⟨?_, extension?_version hversion, fun hawaits' => absurd hawaits' (by simp [hawaits])⟩
    rw [find?_of_version hdigits hasked, hkept, hawaits]
    simp only [Bool.false_eq_true, false_or]
  · obtain ⟨hrun, hmore⟩ := asks_behind_make hdigits
    have hasked := hnext "make".toList (' ' :: (version ++ " the version".toList)) [] hrun hfollower hmore
    refine ⟨?_, extension?_version hversion, fun _ => hends⟩
    rw [if_pos (.inl hawaits), ← hkept]
    exact find?_of_dropped hasked (by simp only [List.mem_singleton, forall_eq]; decide)

theorem dottedNumber_of_all {numbers : List (List Char)} (hlength : 2 ≤ numbers.length)
    (h : (numbers.all fun n => !n.isEmpty && n.all isDigit) = true) :
    DottedNumber (List.intercalate ['.'] numbers) := by
  refine ⟨numbers, hlength, fun n hn => ?_, rfl⟩
  have hnumber := List.all_eq_true.mp h n hn
  rw [Bool.and_eq_true, Bool.not_eq_true', List.isEmpty_eq_false_iff, List.all_eq_true] at hnumber
  exact hnumber

theorem dottedNumber_release : DottedNumber "1.2.3".toList :=
  @dottedNumber_of_all [['1'], ['2'], ['3']] (by decide) (by decide)

/-- The name is lost behind a version number, and kept behind one that ends in a long number. -/
theorem version_after_name_release :
    find? "create a.ts".toList = some "a.ts" ∧ DottedNumber "1.2.3".toList ∧
      find? ("create a.ts".toList ++ ("\nmake ".toList ++ ("1.2.3".toList ++ " the version".toList))) = none ∧
      DottedNumber "1.202401311".toList ∧
      find? ("create a.ts".toList ++ ("\nmake ".toList ++ ("1.202401311".toList ++ " the version".toList))) =
        some "a.ts" := by
  have hname : find? "create a.ts".toList = some "a.ts" := by decide +kernel
  have hlong : DottedNumber "1.202401311".toList :=
    @dottedNumber_of_all [['1'], "202401311".toList] (by decide) (by decide)
  obtain ⟨hlost, -⟩ := version_after_name hname dottedNumber_release
  obtain ⟨hkept, hlength, -⟩ := version_after_name hname hlong
  rw [if_neg (by decide +kernel)] at hlost
  rw [if_pos (.inr ((hlength (List.all_eq_true.mp (by decide))).mpr (by decide)))] at hkept
  exact ⟨hname, dottedNumber_release, hlost, hlong, hkept⟩

/-- The version number is not the name of a file, and still the name is found no more. -/
theorem version_hides_name :
    find? "create a.ts".toList = some "a.ts" ∧ DottedNumber "1.2.3".toList ∧
      find? ("create a.ts".toList ++ ("\nmake ".toList ++ ("1.2.3".toList ++ " the version".toList))) ≠
        some "a.ts" :=
  ⟨by decide +kernel, dottedNumber_release, by decide +kernel⟩

end RiskGauge.FileHint
