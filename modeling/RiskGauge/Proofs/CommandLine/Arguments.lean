import Mathlib.Data.List.Basic
import RiskGauge.CommandLine.Command
import RiskGauge.Proofs.Failure

/-!
# The files among the arguments

The files of an `analyze` command are some of the arguments, in their order, and at least one (`Command.files_of_read`).
Arguments are read in steps, each of which skips some of them or takes those of a place (`readArguments_cases`). What a
place takes has two dashes struck out, which could be all that it takes, if it were not that an argument of two dashes is
plain only behind another one (`Marked`).
-/

namespace RiskGauge.CommandLine

/-! ## Places -/

/-- An argument of two dashes is plain only behind another one. -/
def Marked : List (String × Role) → Prop
  | [] => True
  | (arg, r) :: rest => isDashes r = true ∨ ((isPlain r = true → arg ≠ "--") ∧ Marked rest)

section Places

variable {args : List (String × Role)} {place : Place} {n : Nat}

/-- A place takes two arguments, or its first one is plain. -/
theorem take?_cases (h : place.take? args = some n) :
    n ≤ args.length ∧ (2 ≤ n ∨ 1 ≤ n ∧ ∃ arg r rest, args = (arg, r) :: rest ∧ isPlain r = true) := by
  unfold Place.take? at h
  extract_lets front at h
  split at h
  · cases h
  · rename_i a rest hrest
    split at h
    · rename_i hplain
      extract_lets more at h
      obtain rfl := Option.some.inj h
      have hmore : more.length ≤ rest.length := (List.takeWhile_prefix _).length_le
      have hlength : args.length - front.length = rest.length + 1 := by
        rw [← List.length_drop, hrest, List.length_cons]
      refine ⟨by omega, ?_⟩
      rcases Nat.eq_zero_or_pos front.length with hfront | hfront
      · rw [hfront, List.drop_zero] at hrest
        exact .inr ⟨by omega, a.1, a.2, rest, hrest, hplain⟩
      · exact .inl (by omega)
    · cases h

/-- Something is left of what a place takes when two dashes are struck out. -/
theorem erase_ne_nil (hmarked : Marked args) (h : place.take? args = some n) :
    ((args.take n).map Prod.fst).erase "--" ≠ [] := by
  obtain ⟨hn, htwo | ⟨hone, arg, r, rest, rfl, hplain⟩⟩ := take?_cases h
  · have hlength := List.le_length_erase (a := "--") (l := (args.take n).map Prod.fst)
    rw [List.length_map, List.length_take_of_le hn] at hlength
    exact List.ne_nil_of_length_pos (by omega)
  · have harg : arg ≠ "--" := by
      cases r <;> simp_all [Marked, isDashes, isPlain]
    obtain ⟨k, rfl⟩ := Nat.exists_eq_add_of_le' hone
    exact List.ne_nil_of_mem ((List.mem_erase_of_ne harg).mpr (List.mem_cons_self ..))

/-- Places take arguments in their order. -/
theorem takePlaces_sublist (places : List Place) (args : List (String × Role)) :
    (takePlaces places args).2.flatten.Sublist ((args.take (takePlaces places args).1).map Prod.fst) := by
  induction places generalizing args with
  | nil => exact .slnil
  | cons place places ih =>
    rw [takePlaces]
    split
    · exact .slnil
    · rename_i n htake
      dsimp only
      rw [List.flatten_cons, List.take_add, List.map_append]
      exact (List.erase_sublist ..).append (ih (args.drop n))

end Places

/-! ## Reading -/

section Reading

variable {flags : List Flag} {found result : Found} {places : List Place} {args : List (String × Role)}

theorem addValues_places {values : List (Flag × String)} (h : addValues found values = .ok result) :
    result.places = found.places ∧ result.surplus = found.surplus := by
  induction values generalizing found with
  | nil =>
    obtain rfl := Except.ok.inj h
    exact ⟨rfl, rfl⟩
  | cons v values ih =>
    obtain ⟨f, v⟩ := v
    rw [addValues] at h
    split at h
    · cases h
    · split at h
      · cases h
      · obtain ⟨hplaces, hsurplus⟩ := ih h
        exact ⟨hplaces, hsurplus⟩

theorem takeFlags_usesNext {next : Option String} {fuel : Nat} {f : Flag} {name : String} {attached : Option Attached}
    {taken : Taken} (h : takeFlags flags next fuel f name attached = .ok taken) (huses : taken.usesNext = true) :
    next.isSome = true := by
  induction fuel generalizing f name attached taken with
  | zero => cases h
  | succ fuel ih =>
    unfold takeFlags at h
    split at h
    · split at h
      · split at h
        · rfl
        · cases h
      · obtain rfl := Except.ok.inj h
        cases huses
    · split at h
      · obtain rfl := Except.ok.inj h
        cases huses
      · split at h
        · cases h
        · split at h
          · cases h
          · split at h
            · obtain rfl := Except.ok.inj h
              cases huses
            · simp only [bind_eq_ok, pure_eq_ok] at h
              obtain ⟨behind, hbehind, rfl⟩ := h
              exact ih hbehind huses

/-- Reading goes on behind the first arguments, which no place takes. -/
structure Skip (found : Found) (args : List (String × Role)) (found' : Found) (rest : List (String × Role)) : Prop where
  places : found'.places = found.places
  surplus : found.surplus = true → found'.surplus = true
  /-- Two dashes are not skipped, or else are too many. -/
  front : ∃ skipped, args = skipped ++ rest ∧ (found'.surplus = true ∨ ∀ a ∈ skipped, isDashes a.2 = false)

/-- What a step of reading does: it ends, skips arguments or takes some for the places. -/
theorem readArguments_cases {fuel : Nat} (h : readArguments flags (fuel + 1) places found args = .ok result) :
    (args = [] ∧ result = found) ∨
    (∃ found' rest, Skip found args found' rest ∧ readArguments flags fuel places found' rest = .ok result) ∨
    (∃ n taken, takePlaces places args = (n + 1, taken) ∧
      readArguments flags fuel (places.drop taken.length) { found with places := found.places ++ taken }
        (args.drop (n + 1)) = .ok result) := by
  cases args with
  | nil =>
    rw [readArguments] at h
    split at h
    · exact .inl ⟨rfl, (Except.ok.inj h).symm⟩
    · cases h
  | cons a rest =>
    obtain ⟨arg, r⟩ := a
    have hover : Skip found ((arg, r) :: rest) { found with surplus := true } rest :=
      ⟨rfl, fun _ => rfl, [(arg, r)], rfl, .inl rfl⟩
    unfold readArguments at h
    split at h
    · exact .inr (.inl ⟨_, _, hover, h⟩)
    · rename_i f name attached
      simp only [bind_eq_ok] at h
      obtain ⟨taken, htaken, found', hfound, h⟩ := h
      obtain ⟨hplaces, hsurplus⟩ := addValues_places hfound
      have hkeep (hs : found.surplus = true) : found'.surplus = true := by
        rw [hsurplus, hs, Bool.true_or]
      refine .inr (.inl ⟨found', _, ⟨hplaces, hkeep, ?_⟩, h⟩)
      split
      · rename_i huses
        have hnext := takeFlags_usesNext htaken huses
        split at hnext
        · rename_i v rest
          exact ⟨[(arg, .flag f name attached), (v, .plain)], rfl, .inr (by simp [isDashes])⟩
        · cases hnext
      · exact ⟨[(arg, .flag f name attached)], rfl, .inr (by simp [isDashes])⟩
    · dsimp only at h
      split at h
      · exact .inr (.inl ⟨_, _, hover, h⟩)
      · rename_i n taken hn htake
        obtain ⟨k, rfl⟩ := Nat.exists_eq_succ_of_ne_zero hn
        exact .inr (.inr ⟨k, taken, htake, h⟩)

theorem Skip.marked {found' : Found} {rest : List (String × Role)} (h : Skip found args found' rest)
    (hmarked : Marked args) (hsurplus : found'.surplus = false) : Marked rest := by
  obtain ⟨skipped, rfl, hfront⟩ := h.front
  replace hfront := hfront.resolve_left (by rw [hsurplus]; decide)
  clear h
  induction skipped with
  | nil => exact hmarked
  | cons a skipped ih =>
    obtain ⟨ha, hskipped⟩ := List.forall_mem_cons.mp hfront
    exact ih (hmarked.resolve_left (by rw [ha]; decide)).2 hskipped

theorem surplus_readArguments {fuel : Nat} (h : readArguments flags fuel places found args = .ok result)
    (hsurplus : found.surplus = true) : result.surplus = true := by
  induction fuel generalizing places found args with
  | zero => cases h
  | succ fuel ih =>
    obtain ⟨-, rfl⟩ | ⟨found', rest, hskip, h⟩ | ⟨n, taken, -, h⟩ := readArguments_cases h
    · exact hsurplus
    · exact ih h (hskip.surplus hsurplus)
    · exact ih h hsurplus

/-- The plain arguments of all places stand in the order of the arguments. -/
theorem readArguments_sublist {fuel : Nat} (h : readArguments flags fuel places found args = .ok result) :
    ∃ taken, result.places = found.places ++ taken ∧ taken.flatten.Sublist (args.map Prod.fst) := by
  induction fuel generalizing places found args with
  | zero => cases h
  | succ fuel ih =>
    obtain ⟨rfl, rfl⟩ | ⟨found', rest, hskip, h⟩ | ⟨n, taken, htake, h⟩ := readArguments_cases h
    · exact ⟨[], (List.append_nil _).symm, .slnil⟩
    · obtain ⟨taken, hplaces, hsub⟩ := ih h
      obtain ⟨skipped, rfl, -⟩ := hskip.front
      refine ⟨taken, by rw [hplaces, hskip.places], hsub.trans ?_⟩
      exact (List.sublist_append_right ..).map _
    · obtain ⟨more, hplaces, hsub⟩ := ih h
      have hfirst := takePlaces_sublist places args
      rw [htake] at hfirst
      refine ⟨taken ++ more, by rw [hplaces, List.append_assoc], ?_⟩
      rw [List.flatten_append, ← List.take_append_drop (n + 1) args, List.map_append]
      exact hfirst.append hsub

/-- A place for many arguments gets at least one. -/
theorem ne_nil_of_readArguments {fuel : Nat} (h : readArguments flags fuel places found args = .ok result)
    (hsurplus : result.surplus = false) (hplaces : places = [] ∨ places = [.many] ∧ Marked args)
    (hfound : ∀ xs ∈ found.places, xs ≠ []) : ∀ xs ∈ result.places, xs ≠ [] := by
  induction fuel generalizing places found args with
  | zero => cases h
  | succ fuel ih =>
    obtain ⟨rfl, rfl⟩ | ⟨found', rest, hskip, h⟩ | ⟨n, taken, htake, h⟩ := readArguments_cases h
    · exact hfound
    · -- an argument that is skipped as too many would still be too many at the end
      have hclear : found'.surplus = false := by
        refine Bool.eq_false_iff.mpr fun hs => ?_
        rw [surplus_readArguments h hs] at hsurplus
        cases hsurplus
      exact ih h (hplaces.imp_right (.imp_right fun hmarked => hskip.marked hmarked hclear)) (hskip.places ▸ hfound)
    · obtain rfl | ⟨rfl, hmarked⟩ := hplaces
      · cases htake
      · rw [takePlaces] at htake
        split at htake
        · cases htake
        · rename_i k hk
          obtain ⟨-, rfl⟩ := Prod.mk.inj htake
          refine ih h (.inl rfl) (List.forall_mem_append.mpr ⟨hfound, ?_⟩)
          exact List.forall_mem_singleton.mpr (erase_ne_nil hmarked hk)

theorem roles_eq_ok {words : List String} (h : roles flags words = .ok args) :
    args.map Prod.fst = words ∧ Marked args := by
  induction words generalizing args with
  | nil =>
    obtain rfl := Except.ok.inj h
    exact ⟨rfl, trivial⟩
  | cons word words ih =>
    by_cases hdashes : word = "--"
    · subst hdashes
      obtain rfl := Except.ok.inj h
      exact ⟨by simp [Function.comp_def], .inl rfl⟩
    · rw [roles] at h
      · simp only [bind_eq_ok, pure_eq_ok] at h
        obtain ⟨r, -, args, hargs, rfl⟩ := h
        obtain ⟨rfl, hmarked⟩ := ih hargs
        exact ⟨rfl, .inr ⟨fun _ => hdashes, hmarked⟩⟩
      · exact hdashes

end Reading

/-! ## The command -/

namespace Command

/-- What is found for the one place of a usage. -/
theorem places_of_read {usage : Usage} {args xs : List String} {found : Found} (h : usage.read args = .ok found)
    (husage : usage.places = [.many]) (hxs : found.places = [xs]) : xs ≠ [] ∧ xs.Sublist args := by
  simp only [Usage.read, bind_eq_ok] at h
  obtain ⟨roles, hroles, result, hresult, h⟩ := h
  obtain ⟨rfl, hmarked⟩ := roles_eq_ok hroles
  split at h
  · cases h
  · rename_i hsurplus
    obtain rfl := pure_eq_ok.mp h
    constructor
    · refine ne_nil_of_readArguments hresult (Bool.eq_false_iff.mpr hsurplus) (.inr ⟨husage, hmarked⟩) ?_ xs ?_
      · exact fun _ hmem => absurd hmem List.not_mem_nil
      · exact hxs ▸ List.mem_singleton_self xs
    · obtain ⟨taken, hplaces, hsub⟩ := readArguments_sublist hresult
      rw [hxs, List.nil_append] at hplaces
      simpa [← hplaces] using hsub

theorem files_of_ofName {name : String} {args : List String} {o : AnalyzeOptions}
    (h : ofName name args = .ok (.analyze o)) : o.files ≠ [] ∧ o.files.Sublist args := by
  unfold ofName at h
  split at h
  · obtain ⟨found, hfound, h⟩ := bind_eq_ok.mp h
    unfold ofAnalyze at h
    split at h
    · rename_i files hfiles
      obtain rfl := Command.analyze.inj (Except.ok.inj h)
      exact places_of_read hfound rfl hfiles
    · cases h
  · obtain ⟨found, -, h⟩ := bind_eq_ok.mp h
    split at h <;> cases h
  · obtain ⟨found, -, h⟩ := bind_eq_ok.mp h
    split at h <;> cases h
  · cases h

theorem exists_ofName_of_readFrom {surplus : Bool} {args : List String} {c : Command}
    (h : readFrom surplus args = .ok c) : ∃ name rest, ofName name rest = .ok c ∧ rest <:+ args := by
  induction args generalizing surplus with
  | nil => cases h
  | cons arg rest ih =>
    have hlater {surplus : Bool} (h : readFrom surplus rest = .ok c) :
        ∃ name behind, ofName name behind = .ok c ∧ behind <:+ arg :: rest := by
      obtain ⟨name, behind, hname, hbehind⟩ := ih h
      exact ⟨name, behind, hname, hbehind.trans (List.suffix_cons ..)⟩
    rw [readFrom] at h
    split at h
    · cases h
    · obtain ⟨r, -, h⟩ := bind_eq_ok.mp h
      split at h
      · obtain ⟨command, hcommand, h⟩ := bind_eq_ok.mp h
        split at h
        · cases h
        · obtain rfl := pure_eq_ok.mp h
          exact ⟨arg, rest, hcommand, List.suffix_cons ..⟩
      · simp only [bind_eq_ok] at h
        obtain ⟨-, -, -, -, h⟩ := h
        exact hlater h
      · exact hlater h

/-- An `analyze` command is about some of the arguments, in their order. -/
theorem files_of_read {args : List String} {o : AnalyzeOptions} (h : read args = .ok (.analyze o)) :
    o.files ≠ [] ∧ o.files.Sublist args := by
  obtain ⟨name, rest, hname, hrest⟩ := exists_ofName_of_readFrom h
  obtain ⟨hne, hsub⟩ := files_of_ofName hname
  exact ⟨hne, hsub.trans hrest.sublist⟩

end Command

end RiskGauge.CommandLine
