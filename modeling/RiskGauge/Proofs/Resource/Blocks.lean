import Mathlib.Data.List.Perm.Basic
import RiskGauge.Proofs.Resource.Braces
import RiskGauge.Proofs.Resource.Headers

/-!
# Functions with their bodies between braces

The functions of a text are those with their bodies between braces, each with the index of its opening brace
(`openings`), and those without (`expressions`).

* `open_of_mem_openings`: at the index there is an opening brace, which ends the header of a function with a name and
  follows the header of an arrow function;
* `mem_openings_append`: a function that is closed is found whatever follows its closing brace;
* `bodies_end_at_matching_brace`: its body is the same too, so only what stands before the closing brace makes a function
  one that calls itself.
-/

namespace RiskGauge.FunctionBody

open Pattern

/-- A function with its body between braces: its name and the index of the opening brace. -/
structure Opening where
  name : List Char
  start : Nat
deriving DecidableEq, Repr

/-- The function with its body. -/
def Opening.body (text : List Char) (f : Opening) : Body :=
  { name := f.name, text := block text f.start }

/-- A brace opens behind a match. -/
def bracedBehind (text : List Char) (m : Found) : Bool :=
  (text.drop (stopIndex text m)).head? = some '\x7b'

/-- The functions with their bodies between braces. -/
def openings (text : List Char) : List Opening :=
  (namedHeader.findAll text).map (fun m => { name := m.group 1, start := stopIndex text m - 1 }) ++
    ((arrowHeader.findAll text).filter (bracedBehind text)).map fun m => { name := m.group 1, start := stopIndex text m }

/-- The arrow functions without braces around their bodies. -/
def expressions (text : List Char) : List Body :=
  ((arrowHeader.findAll text).filter (!bracedBehind text ·)).map fun m =>
    { name := m.group 1, text := (text.drop (stopIndex text m)).takeWhile fun c => c != ';' && c != '\n' }

/-- The function calls itself in its body. -/
def Body.callsItself (b : Body) : Bool :=
  (callOf b.name).occursIn b.text

variable {text name : List Char} {f : Opening} {j : Nat}

/-- The arrow functions are those with braces around their bodies and those without. -/
theorem perm_arrows (text : List Char) : (arrows text).Perm
    ((((arrowHeader.findAll text).filter (bracedBehind text)).map fun m =>
      ({ name := m.group 1, text := block text (stopIndex text m) } : Body)) ++ expressions text) := by
  have hsplit := (List.filter_append_perm (bracedBehind text) (arrowHeader.findAll text)).symm
  refine (hsplit.map _).trans (.of_eq ?_)
  rw [List.map_append, expressions]
  congr 1
  · refine List.map_congr_left fun m hm => ?_
    have hbrace : (text.drop (stopIndex text m)).head? = some '\x7b' := of_decide_eq_true (List.mem_filter.mp hm).2
    simp only [if_pos hbrace]
  · refine List.map_congr_left fun m hm => ?_
    have hbrace : bracedBehind text m = false := by simpa using (List.mem_filter.mp hm).2
    simp only [if_neg (of_decide_eq_false hbrace)]

/-- All functions are those with braces around their bodies and those without. -/
theorem perm_ofText (text : List Char) :
    (ofText text).Perm ((openings text).map (·.body text) ++ expressions text) := by
  rw [ofText, openings, List.map_append, List.map_map, List.map_map, List.append_assoc]
  exact (perm_arrows text).append_left _

theorem hasSelfCall_eq (text : List Char) : hasSelfCall text =
    ((openings text).any (fun f => (f.body text).callsItself) || (expressions text).any Body.callsItself) := by
  have hall : hasSelfCall text = (ofText text).any Body.callsItself := rfl
  rw [hall, (perm_ofText text).any_eq, List.any_append, List.any_map]
  rfl

/-! ## The opening brace -/

/-- The header of a function with a name ends with the opening brace. -/
theorem open_of_finds_named (h : namedHeader.Finds text j name) : ∃ i, j = i + 1 ∧ text[i]? = some '\x7b' := by
  obtain ⟨i, -, hmatch⟩ := (finds_iff reads_named.settled.proceeds).mp h
  obtain ⟨hj, hread⟩ := reads_named.firstMatch_iff.mp hmatch
  obtain ⟨front, hfront⟩ := exists_front_of_readNamed hread
  have hlengths := congrArg List.length hfront
  rw [List.length_append, List.length_cons, List.length_drop, List.length_drop] at hlengths
  refine ⟨i + front.length, by omega, ?_⟩
  rw [← List.getElem?_drop, hfront, List.getElem?_append_right (Nat.le_refl _), Nat.sub_self, List.getElem?_cons_zero]

theorem mem_openings : f ∈ openings text ↔
    namedHeader.Finds text (f.start + 1) f.name ∨
      arrowHeader.Finds text f.start f.name ∧ text[f.start]? = some '\x7b' := by
  obtain ⟨name, start⟩ := f
  rw [openings, List.mem_append, List.mem_map, List.mem_map]
  refine or_congr ⟨?_, ?_⟩ ⟨?_, ?_⟩
  · rintro ⟨m, hm, heq⟩
    obtain ⟨rfl, rfl⟩ := Opening.mk.inj heq
    obtain ⟨i, hi, -⟩ := open_of_finds_named ⟨m, hm, rfl, rfl⟩
    refine ⟨m, hm, ?_, rfl⟩
    show stopIndex text m = stopIndex text m - 1 + 1
    have hstop : stopIndex text m = i + 1 := hi
    omega
  · rintro ⟨m, hm, hstop, rfl⟩
    have hstart : stopIndex text m - 1 = start := Nat.sub_eq_of_eq_add hstop
    exact ⟨m, hm, by rw [hstart]⟩
  · rintro ⟨m, hm, heq⟩
    obtain ⟨rfl, rfl⟩ := Opening.mk.inj heq
    obtain ⟨hm, hbrace⟩ := List.mem_filter.mp hm
    refine ⟨⟨m, hm, rfl, rfl⟩, ?_⟩
    rw [← List.head?_drop]
    exact of_decide_eq_true hbrace
  · rintro ⟨⟨m, hm, rfl, rfl⟩, hbrace⟩
    refine ⟨m, List.mem_filter.mpr ⟨hm, decide_eq_true ?_⟩, rfl⟩
    rw [List.head?_drop]
    exact hbrace

/-- The index of a function is that of an opening brace. -/
theorem open_of_mem_openings (h : f ∈ openings text) : text[f.start]? = some '\x7b' := by
  rcases mem_openings.mp h with hfinds | ⟨-, hbrace⟩
  · obtain ⟨i, hi, hbrace⟩ := open_of_finds_named hfinds
    obtain rfl : f.start = i := by omega
    exact hbrace
  · exact hbrace

/-- A function that is closed is found whatever follows its closing brace. -/
theorem mem_openings_append (h : f ∈ openings text) (hclosed : blockEnd text f.start < text.length) (back : List Char) :
    f ∈ openings (text.take (blockEnd text f.start + 1) ++ back) := by
  have hopen := open_of_mem_openings h
  have hlt := lt_blockEnd hopen hclosed
  have hlength : (text.take (blockEnd text f.start + 1)).length = blockEnd text f.start + 1 :=
    List.length_take_of_le hclosed
  have hwhole : text.take (blockEnd text f.start + 1) ++ text.drop (blockEnd text f.start + 1) = text :=
    List.take_append_drop ..
  rw [mem_openings]
  rcases mem_openings.mp h with hfinds | ⟨hfinds, -⟩
  · rw [← hwhole] at hfinds
    exact .inl (reads_named.settled.finds_append (by omega) back hfinds)
  · rw [← hwhole] at hfinds
    exact .inr ⟨reads_arrow.settled.finds_append (by omega) back hfinds, (block_append hopen hclosed back).1⟩

/-- A block ends at the first index behind its opening brace up to which the braces balance. The bodies between braces are
the blocks at the openings, so there are never more closing braces than opening ones in the beginning of a body, and as
many of both in a body that is closed. With any other text behind its closing brace, a function is found with the same
body, so what follows this brace cannot make it one that calls itself. -/
theorem bodies_end_at_matching_brace (text : List Char) :
    (∀ i, text[i]? = some '\x7b' →
      IsLeast (balances text i) (blockEnd text i) ∧ text[blockEnd text i]? = some '\x7d' ∨
        balances text i = ∅ ∧ blockEnd text i = text.length) ∧
    (ofText text).Perm ((openings text).map (·.body text) ++ expressions text) ∧
    hasSelfCall text =
      ((openings text).any (fun f => (f.body text).callsItself) || (expressions text).any Body.callsItself) ∧
    ∀ f ∈ openings text, text[f.start]? = some '\x7b' ∧
      (∀ w, w <+: (f.body text).text → w.count '\x7d' ≤ w.count '\x7b') ∧
      (blockEnd text f.start < text.length → Balanced (f.body text).text ∧
        ∀ back, f ∈ openings (text.take (blockEnd text f.start + 1) ++ back) ∧
          f.body (text.take (blockEnd text f.start + 1) ++ back) = f.body text) := by
  refine ⟨fun i => ends_blockEnd, perm_ofText text, hasSelfCall_eq text, fun f hf => ?_⟩
  have hopen := open_of_mem_openings hf
  refine ⟨hopen, fun w => count_le_of_prefix_block hopen, fun hclosed => ⟨balanced_block hopen hclosed, fun back => ?_⟩⟩
  refine ⟨mem_openings_append hf hclosed back, ?_⟩
  rw [Opening.body, (block_append hopen hclosed back).2.2, Opening.body]

/-- An arrow function with braces in its body, which is called behind its closing brace. -/
theorem bodies_end_at_matching_brace_run :
    let text := "const run = () => \x7b if (a) \x7b b(); \x7d \x7d;\nrun();".toList
    let f : Opening := { name := "run".toList, start := 18 }
    (f ∈ openings text ∧ text[18]? = some '\x7b' ∧ blockEnd text 18 = 36 ∧ 36 < text.length) ∧
      (IsLeast (balances text 18) 36 ∧ text[36]? = some '\x7d') ∧
      (∀ w, w <+: (f.body text).text → w.count '\x7d' ≤ w.count '\x7b') ∧ Balanced (f.body text).text ∧
      (f ∈ openings (text.take 37 ++ " run(run());".toList) ∧
        f.body (text.take 37 ++ " run(run());".toList) = f.body text) ∧ hasSelfCall text = false := by
  intro text f
  have hf : f ∈ openings text := by decide +kernel
  have hend : blockEnd text 18 = 36 := by decide
  have hlength : 36 < text.length := by decide
  have hcalls : hasSelfCall text = false := by decide +kernel
  obtain ⟨hends, -, -, hopenings⟩ := bodies_end_at_matching_brace text
  obtain ⟨hopen, hcounts, hclosed⟩ := hopenings f hf
  have hleast := hends 18 hopen
  rw [show f.start = 18 from rfl, hend] at hclosed
  rw [hend] at hleast
  obtain ⟨hbalanced, hback⟩ := hclosed hlength
  exact ⟨⟨hf, hopen, hend, hlength⟩, hleast.resolve_right fun h => absurd h.2 hlength.ne, hcounts, hbalanced,
    hback " run(run());".toList, hcalls⟩

end RiskGauge.FunctionBody
