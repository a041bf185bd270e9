import RiskGauge.Proofs.Pattern.Advance

/-!
# The ways to match a pattern

A pattern is matched by backtracking: the ways to match are tried in order, and the first after which the rest succeeds
is taken. `Pattern.ways` lists the places behind them in the order in which they are tried, and `run_eq_findSome?` says
that the matcher goes through this list. What a pattern can match is then a matter of membership in a list:

* `mem_ways_all_cons`, `mem_ways_any` for the patterns that are put together from others;
* `ways_exactly`, `mem_ways_edge`, `mem_ways_one`, `mem_ways_span` for those that they are put together from;
* `exists_advance`: what simple patterns match is a number of characters, and at least `leastLength` of them;
* `Advances`: so it is for patterns with parts that may be missing.
-/

namespace RiskGauge.Pattern

variable {p q : Pattern} {s t : Cursor}

/-! ## Trying the ways in order -/

/-- The places behind exactly `n` rounds. -/
def roundWays (body : Cursor → List Cursor) : Nat → Cursor → List Cursor
  | 0, s => [s]
  | n + 1, s => (body s).flatMap (roundWays body n)

/-- The places behind at most `n` rounds, see `moreRounds`. -/
def moreWays (body : Cursor → List Cursor) (lazy : Bool) : Nat → Option Nat → Cursor → List Cursor
  | 0, _, s => [s]
  | n + 1, last, s =>
    if last == some s.left then [s]
    else if lazy then s :: (body s).flatMap (moreWays body lazy n (some s.left))
    else (body s).flatMap (moreWays body lazy n (some s.left)) ++ [s]

/-- The places behind the matches of a pattern at a place, in the order in which they are tried. -/
def ways : Pattern → Cursor → List Cursor
  | empty, s => [s]
  | one test, s => (s.step? test).toList
  | span test least most lazy, s =>
    let places := (s.span test most).drop least
    if lazy then places else places.reverse
  | place cond, s => if cond.holds s then [s] else []
  | seq p q, s => (p.ways s).flatMap q.ways
  | either p q, s => p.ways s ++ q.ways s
  | loop p least most lazy, s =>
    (roundWays p.ways least s).flatMap fun t => moreWays p.ways lazy (spare least most t) none t
  | group n p, s => (p.ways (s.openGroup n)).map (·.closeGroup n)
  | ifGroup n yes no, s => if (s.group? n).isSome then yes.ways s else no.ways s
  -- the others have no second thoughts, so there is one way at most
  | p, s => (p.run s some).toList

section Run

attribute [local simp] ways roundWays moreWays run rounds moreRounds

theorem findSome?_toList {α β : Type} (x : Option α) (k : α → Option β) : x.toList.findSome? k = x.bind k := by
  cases x <;> simp

theorem findSome?_flatMap {α β γ : Type} (xs : List α) (f : α → List β) (k : β → Option γ) :
    (xs.flatMap f).findSome? k = xs.findSome? fun x => (f x).findSome? k := by
  induction xs with
  | nil => rfl
  | cons x xs ih =>
    rw [List.flatMap_cons, List.findSome?_append, ih, List.findSome?_cons]
    cases (f x).findSome? k <;> rfl

section Rounds

variable {body : Matcher} {listed : Cursor → List Cursor} (h : ∀ s k, body s k = (listed s).findSome? k)

include h

theorem rounds_eq (n : Nat) (s : Cursor) (k : Rest) : rounds body n s k = (roundWays listed n s).findSome? k := by
  induction n generalizing s with
  | zero => simp
  | succ n ih => simp only [rounds, roundWays, h, ih, findSome?_flatMap]

theorem moreRounds_eq (lazy : Bool) (n : Nat) (last : Option Nat) (s : Cursor) (k : Rest) :
    moreRounds body lazy n last s k = (moreWays listed lazy n last s).findSome? k := by
  induction n generalizing last s with
  | zero => simp
  | succ n ih =>
    rw [moreRounds, moreWays]
    split
    · simp
    · simp only [h, ih]
      cases lazy with
      | true =>
        rw [if_pos rfl, if_pos rfl, List.findSome?_cons, findSome?_flatMap]
        cases k s <;> rfl
      | false =>
        rw [if_neg Bool.false_ne_true, if_neg Bool.false_ne_true, List.findSome?_append, findSome?_flatMap,
          List.findSome?_singleton]
        cases (listed s).findSome? _ <;> rfl

end Rounds

/-- The matcher goes through the ways to match in order, and takes the first after which the rest succeeds. -/
theorem run_eq_findSome? (p : Pattern) (s : Cursor) (k : Rest) : p.run s k = (p.ways s).findSome? k := by
  induction p generalizing s k with
  | empty => simp
  | one test => simp only [run, ways, findSome?_toList]
  | span test least most lazy => rfl
  | place cond =>
    simp only [run, ways]
    split <;> simp
  | seq p q hp hq => simp only [run, ways, hp, hq, findSome?_flatMap]
  | either p q hp hq =>
    simp only [run, ways, hp, hq, List.findSome?_append]
    cases (p.ways s).findSome? k <;> rfl
  | loop p least most lazy hp => simp only [run, ways, rounds_eq hp, moreRounds_eq hp, findSome?_flatMap]
  | seize p least most hp =>
    simp only [run, ways, findSome?_toList, Option.bind_assoc]
    rfl
  | group n p hp => simp only [run, ways, hp, List.findSome?_map, Function.comp_def]
  | once p hp => simp only [run, ways, findSome?_toList, Option.bind_fun_some]
  | ahead p wanted hp =>
    simp only [run, ways, findSome?_toList]
    cases p.run s some <;> cases wanted <;> rfl
  | behind p width wanted hp =>
    simp only [run, ways, findSome?_toList]
    cases (s.back? width).bind fun t => p.run t some <;> cases wanted <;> rfl
  | again n same => simp only [run, ways, findSome?_toList, Option.bind_fun_some]
  | ifGroup n yes no hyes hno =>
    simp only [run, ways, hyes, hno]
    split <;> rfl

end Run

theorem matchAt?_eq (p : Pattern) (h : s.marks = []) : p.matchAt? s = (p.ways s).head?.map fun t => ⟨s, t⟩ := by
  have hs : { s with marks := [] } = s := by rw [← h]
  rw [matchAt?, hs, run_eq_findSome?]
  cases p.ways s <;> rfl

/-! ## Patterns put together -/

theorem mem_ways_seq : t ∈ (seq p q).ways s ↔ ∃ u ∈ p.ways s, t ∈ q.ways u :=
  List.mem_flatMap

theorem mem_ways_either : t ∈ (either p q).ways s ↔ t ∈ p.ways s ∨ t ∈ q.ways s :=
  List.mem_append

@[simp] theorem mem_ways_all_nil : t ∈ (all []).ways s ↔ t = s :=
  List.mem_singleton

theorem mem_ways_all_cons {ps : List Pattern} :
    t ∈ (all (p :: ps)).ways s ↔ ∃ u ∈ p.ways s, t ∈ (all ps).ways u :=
  mem_ways_seq

theorem ways_all_append (ps qs : List Pattern) (s : Cursor) :
    (all (ps ++ qs)).ways s = ((all ps).ways s).flatMap (all qs).ways := by
  induction ps generalizing s with
  | nil => exact (List.flatMap_singleton ..).symm
  | cons p ps ih =>
    show (p.ways s).flatMap (all (ps ++ qs)).ways = ((p.ways s).flatMap (all ps).ways).flatMap (all qs).ways
    rw [List.flatMap_assoc]
    congr 1
    funext t
    exact ih t

theorem mem_ways_all_append {ps qs : List Pattern} :
    t ∈ (all (ps ++ qs)).ways s ↔ ∃ u ∈ (all ps).ways s, t ∈ (all qs).ways u := by
  rw [ways_all_append, List.mem_flatMap]

theorem mem_ways_any {ps : List Pattern} : t ∈ (any ps).ways s ↔ ∃ p ∈ ps, t ∈ p.ways s := by
  fun_induction any ps with
  | case1 =>
    obtain ⟨before, after, left, marks⟩ := s
    cases after <;> simp [ways, Cursor.step?]
  | case2 p => simp
  | case3 p ps hne ih => rw [mem_ways_either, ih, List.exists_mem_cons_iff]

/-! ## Characters and places -/

theorem ways_textBy_beq (cs : List Char) (s : Cursor) :
    (textBy (· == ·) cs).ways s = if cs <+: s.after then [s.advance cs.length] else [] := by
  induction cs generalizing s with
  | nil => simp [textBy, all, ways]
  | cons c cs ih =>
    have hways : (textBy (· == ·) (c :: cs)).ways s =
        (s.step? (c == ·)).toList.flatMap (textBy (· == ·) cs).ways := rfl
    cases hafter : s.after with
    | nil => simp [hways, Cursor.step?, hafter]
    | cons d rest =>
      rw [hways, Cursor.step?_cons hafter]
      by_cases hc : c = d
      · simp [hc, ih, hafter, Cursor.advance_advance, Nat.add_comm]
      · simp [hc]

theorem ways_exactly (text : String) (s : Cursor) :
    (exactly text).ways s = if text.toList <+: s.after then [s.advance text.toList.length] else [] :=
  ways_textBy_beq text.toList s

theorem mem_ways_words {ws : List String} :
    t ∈ (any (ws.map exactly)).ways s ↔ ∃ w ∈ ws, w.toList <+: s.after ∧ t = s.advance w.toList.length := by
  simp only [mem_ways_any, List.mem_map, exists_exists_and_eq_and, ways_exactly]
  refine exists_congr fun w => and_congr_right fun _ => ?_
  split <;> simp [*]

theorem mem_ways_place {cond : Place} : t ∈ (place cond).ways s ↔ cond.holds s = true ∧ t = s := by
  show t ∈ (if cond.holds s then [s] else []) ↔ _
  split <;> simp [*]

theorem mem_ways_edge : t ∈ edge.ways s ↔ s.atWordEdge Text.isWord true = true ∧ t = s :=
  mem_ways_place

theorem mem_ways_one {test : Char → Bool} :
    t ∈ (one test).ways s ↔ (∃ c, s.after.head? = some c ∧ test c = true) ∧ t = s.advance 1 := by
  cases hafter : s.after with
  | nil => simp [ways, Cursor.step?, hafter]
  | cons c rest =>
    simp only [ways, Cursor.step?_cons hafter]
    by_cases hc : test c = true
    · simp [hc]
    · simp [hc]

theorem mem_ways_span {test : Char → Bool} {least : Nat} {most : Option Nat} {lazy : Bool} :
    t ∈ (span test least most lazy).ways s ↔
      ∃ n, least ≤ n ∧ n ≤ Cursor.spanLength test most s.after ∧ t = s.advance n := by
  have hmem : t ∈ (span test least most lazy).ways s ↔ t ∈ (s.span test most).drop least := by
    cases lazy <;> simp [ways]
  rw [hmem, Cursor.span_eq, ← List.map_drop, List.mem_map, List.range_eq_range', List.drop_range']
  simp only [List.mem_range'_1]
  constructor
  · rintro ⟨n, hn, rfl⟩
    exact ⟨n, by omega, by omega, rfl⟩
  · rintro ⟨n, hleast, hn, rfl⟩
    exact ⟨n, by omega, rfl⟩

/-- Of the characters that pass a test, as many as there are are tried first. -/
theorem head?_ways_many (test : Char → Bool) (s : Cursor) :
    ((many test).ways s).head? = some (s.advance (s.after.takeWhile test).length) := by
  have hways : (many test).ways s = ((s.span test none).drop 0).reverse := rfl
  rw [hways, Cursor.span_eq, List.drop_zero, List.head?_reverse, List.getLast?_map, List.getLast?_range]
  simp [Cursor.spanLength]

theorem mem_ways_group {n : Nat} : t ∈ (group n p).ways s ↔ ∃ u ∈ p.ways (s.openGroup n), t = u.closeGroup n := by
  simp only [ways, List.mem_map, eq_comm]

theorem mem_ways_optional : t ∈ (optional p).ways s ↔ t ∈ p.ways s ∨ t = s := by
  have hspare : spare 0 (some 1) s = 1 := Nat.min_eq_left (Nat.succ_le_succ (Nat.zero_le _))
  simp [optional, ways, roundWays, moreWays, hspare]

theorem run_exactly (text : String) (s : Cursor) (k : Rest) :
    (exactly text).run s k = if text.toList <+: s.after then k (s.advance text.toList.length) else none := by
  rw [run_eq_findSome?, ways_exactly]
  split <;> simp

/-- As few characters as will do: the places further on are tried one after the other. -/
theorem run_span_lazy (s : Cursor) (k : Rest) :
    (span (fun _ => true) 0 none true).run s k =
      (List.range (s.after.length + 1)).findSome? fun n => k (s.advance n) := by
  rw [run, Cursor.span_eq, Cursor.spanLength_true_none, List.drop_zero, if_pos rfl, List.findSome?_map]
  rfl

/-! ## Simple patterns -/

/-- Characters and conditions on places, in a row or as alternatives. -/
def isSimple : Pattern → Bool
  | empty | one _ | span .. | place _ => true
  | seq p q | either p q => p.isSimple && q.isSimple
  | _ => false

/-- The least number of characters that a simple pattern matches. -/
def leastLength : Pattern → Nat
  | one _ => 1
  | span _ least _ _ => least
  | seq p q => p.leastLength + q.leastLength
  | either p q => min p.leastLength q.leastLength
  | _ => 0

/-- A simple pattern matches a number of characters and leaves no marks. -/
theorem exists_advance (hp : p.isSimple = true) (h : t ∈ p.ways s) :
    ∃ n, p.leastLength ≤ n ∧ n ≤ s.after.length ∧ t = s.advance n := by
  induction p generalizing s t with
  | empty => exact ⟨0, Nat.le_refl 0, Nat.zero_le _, List.mem_singleton.mp h⟩
  | one test =>
    obtain ⟨⟨c, hc, -⟩, rfl⟩ := mem_ways_one.mp h
    refine ⟨1, Nat.le_refl 1, ?_, rfl⟩
    exact List.length_pos_of_mem (List.mem_of_head? hc)
  | span test least most lazy =>
    obtain ⟨n, hleast, hn, rfl⟩ := mem_ways_span.mp h
    exact ⟨n, hleast, hn.trans (Cursor.spanLength_le test most s.after), rfl⟩
  | place cond => exact ⟨0, Nat.le_refl 0, Nat.zero_le _, (mem_ways_place.mp h).2⟩
  | seq p q ihp ihq =>
    obtain ⟨hp, hq⟩ : p.isSimple = true ∧ q.isSimple = true := by simpa [isSimple] using hp
    obtain ⟨u, hu, ht⟩ := mem_ways_seq.mp h
    obtain ⟨m, hm, hle, rfl⟩ := ihp hp hu
    obtain ⟨n, hn, hle', rfl⟩ := ihq hq ht
    rw [Cursor.advance_after, List.length_drop] at hle'
    exact ⟨m + n, Nat.add_le_add hm hn, by omega, Cursor.advance_advance ..⟩
  | either p q ihp ihq =>
    obtain ⟨hp, hq⟩ : p.isSimple = true ∧ q.isSimple = true := by simpa [isSimple] using hp
    obtain h | h := mem_ways_either.mp h
    · obtain ⟨n, hn, hrest⟩ := ihp hp h
      exact ⟨n, (Nat.min_le_left ..).trans hn, hrest⟩
    · obtain ⟨n, hn, hrest⟩ := ihq hq h
      exact ⟨n, (Nat.min_le_right ..).trans hn, hrest⟩
  | loop | seize | group | once | ahead | behind | again | ifGroup => cases hp

/-- What the pattern matches is a number of characters, and it leaves no marks. -/
def Advances (p : Pattern) : Prop :=
  ∀ s t, t ∈ p.ways s → ∃ n, t = s.advance n

namespace Advances

theorem of_isSimple (hp : p.isSimple = true) : p.Advances := by
  intro s t h
  obtain ⟨n, -, -, rfl⟩ := exists_advance hp h
  exact ⟨n, rfl⟩

theorem optional (hp : p.Advances) : (optional p).Advances := by
  intro s t h
  obtain h | rfl := mem_ways_optional.mp h
  · exact hp s t h
  · exact ⟨0, rfl⟩

theorem all {ps : List Pattern} (h : ∀ p ∈ ps, p.Advances) : (all ps).Advances := by
  intro s t ht
  induction ps generalizing s with
  | nil => exact ⟨0, mem_ways_all_nil.mp ht⟩
  | cons p ps ih =>
    rw [List.forall_mem_cons] at h
    obtain ⟨u, hu, ht⟩ := mem_ways_all_cons.mp ht
    obtain ⟨m, rfl⟩ := h.1 s u hu
    obtain ⟨n, rfl⟩ := ih h.2 _ ht
    exact ⟨m + n, Cursor.advance_advance ..⟩

theorem any {ps : List Pattern} (h : ∀ p ∈ ps, p.Advances) : (any ps).Advances := by
  intro s t ht
  obtain ⟨p, hp, ht⟩ := mem_ways_any.mp ht
  exact h p hp s t ht

end Advances

end RiskGauge.Pattern
