import Mathlib.Logic.Function.Iterate
import RiskGauge.SyntaxTree

/-!
# The order of a walk

A walk over a tree keeps the nodes that are still to be visited on a stack. It is a loop of rounds (`Walk.round`), and
each round leaves alone what was visited together with what the trees on the stack hold (`Walk.listing_round`) and takes
one node off those to come (`Walk.pending_round`). So the loop ends after as many rounds as the tree has nodes, and it
visits them in the order of the recursive listing (`SyntaxTree.preorder`).

This order is that of the places of the nodes. The address of a node says which part to go down to, level by level
(`Visit.down?`); `SyntaxTree.addresses` lists the addresses of a tree in the order of a dictionary, where an address
comes before those that it begins, and an earlier part before a later one. `SyntaxTree.walk_preorder` puts this
together.
-/

namespace RiskGauge.SyntaxTree

/-! ## The recursive listing -/

mutual
/-- The nodes of a tree: the tree itself, and then the nodes of its parts, part by part. -/
def preorder (parent : Option SyntaxTree) : SyntaxTree → List Visit
  | node r k s cs => ⟨node r k s cs, parent⟩ :: preorders (some (node r k s cs)) cs

/-- The nodes of several trees below one node, tree by tree. -/
def preorders (parent : Option SyntaxTree) : List SyntaxTree → List Visit
  | [] => []
  | t :: rest => preorder parent t ++ preorders parent rest
end

/-- The nodes below a visited one, and itself first. -/
def Visit.listing (v : Visit) : List Visit :=
  v.tree.preorder v.parent

theorem preorders_eq_flatMap (parent : Option SyntaxTree) (ts : List SyntaxTree) :
    preorders parent ts = (ts.map fun t => (⟨t, parent⟩ : Visit)).flatMap Visit.listing := by
  induction ts with
  | nil => rfl
  | cons t ts ih => rw [preorders, ih, List.map_cons, List.flatMap_cons, Visit.listing]

theorem Visit.listing_eq (v : Visit) : v.listing = v :: v.below.flatMap Visit.listing := by
  obtain ⟨⟨r, k, s, cs⟩, parent⟩ := v
  rw [listing, preorder, preorders_eq_flatMap]
  rfl

/-- From a stack, the nodes of its trees are visited tree by tree. -/
theorem walkStack_eq (stack : List Visit) : walkStack stack = stack.flatMap Visit.listing := by
  fun_induction walkStack stack with
  | case1 => rfl
  | case2 v stack ih => rw [ih, List.flatMap_append, List.flatMap_cons, Visit.listing_eq v, List.cons_append]

theorem walk_eq_preorder (t : SyntaxTree) : t.walk = t.preorder none := by
  rw [walk, walkStack_eq, List.flatMap_singleton, Visit.listing]

/-! ## The loop -/

/-- A walk under way: what was visited, and the stack of what is to be visited, its top first. -/
structure Walk where
  visited : List Visit
  stack : List Visit

namespace Walk

/-- Nothing was visited, and the tree is on the stack. -/
def start (t : SyntaxTree) : Walk :=
  { visited := [], stack := [{ tree := t, parent := none }] }

/-- One round of the loop: the top of the stack is visited, and its parts take its place. The first of them is the new
top. -/
def round (w : Walk) : Walk :=
  match w.stack with
  | [] => w
  | v :: stack => { visited := w.visited ++ [v], stack := v.below ++ stack }

/-- All that a walk visits, if it goes on from here. -/
def listing (w : Walk) : List Visit :=
  w.visited ++ w.stack.flatMap Visit.listing

/-- A round moves the top of the stack to what was visited, and leaves the nodes below it on the stack. -/
theorem listing_round (w : Walk) : w.round.listing = w.listing := by
  obtain ⟨visited, stack⟩ := w
  cases stack with
  | nil => rfl
  | cons v stack =>
    simp only [round, listing, List.flatMap_append, List.flatMap_cons, Visit.listing_eq v, List.append_assoc,
      List.cons_append, List.nil_append]

theorem pending_round (w : Walk) : Visit.pending w.round.stack = Visit.pending w.stack - 1 := by
  obtain ⟨visited, stack⟩ := w
  cases stack with
  | nil => rfl
  | cons v stack =>
    have hbelow := Visit.pending_below v
    simp only [round, Visit.pending, Visit.pending_append]
    omega

theorem listing_rounds (n : Nat) (w : Walk) : (round^[n] w).listing = w.listing := by
  induction n with
  | zero => rfl
  | succ n ih => rw [Function.iterate_succ_apply', listing_round, ih]

theorem pending_rounds (n : Nat) (w : Walk) : Visit.pending (round^[n] w).stack = Visit.pending w.stack - n := by
  induction n with
  | zero => rfl
  | succ n ih => rw [Function.iterate_succ_apply', pending_round, ih, Nat.sub_sub]

end Walk

theorem Visit.pending_eq_zero_iff {stack : List Visit} : pending stack = 0 ↔ stack = [] := by
  cases stack with
  | nil => simp [pending]
  | cons v stack =>
    have hbelow := pending_below v
    simp only [pending, reduceCtorEq, iff_false]
    omega

theorem Walk.pending_start (t : SyntaxTree) : Visit.pending (start t).stack = t.size :=
  Nat.add_zero t.size

/-- The loop ends after as many rounds as the tree has nodes, and not before. -/
theorem Walk.stack_rounds_eq_nil_iff (t : SyntaxTree) (n : Nat) : (round^[n] (start t)).stack = [] ↔ t.size ≤ n := by
  rw [← Visit.pending_eq_zero_iff, pending_rounds, pending_start, Nat.sub_eq_zero_iff_le]

/-- When the loop has ended, it has visited what the recursive listing gives. -/
theorem Walk.visited_rounds {t : SyntaxTree} {n : Nat} (hn : t.size ≤ n) :
    (round^[n] (start t)).visited = t.preorder none := by
  have hstack := (stack_rounds_eq_nil_iff t n).mpr hn
  have hlisting := listing_rounds n (start t)
  rwa [listing, hstack, List.flatMap_nil, List.append_nil, listing, start, List.flatMap_singleton] at hlisting

/-! ## Addresses -/

/-- The node at an address below a visited node: which part to go down to, level by level. -/
def Visit.down? : List Nat → Visit → Option Visit
  | [], v => some v
  | i :: path, v => v.below[i]?.bind (down? path)

mutual
/-- The addresses in a tree, in the order of a dictionary. -/
def addresses : SyntaxTree → List (List Nat)
  | node _ _ _ cs => [] :: addressesFrom 0 cs

/-- The addresses in several trees that are the parts of a node from an index on. -/
def addressesFrom (i : Nat) : List SyntaxTree → List (List Nat)
  | [] => []
  | t :: rest => (addresses t).map (i :: ·) ++ addressesFrom (i + 1) rest
end

/-- The addresses in parts begin with the index of the part. -/
theorem exists_of_mem_addressesFrom {i : Nat} {ts : List SyntaxTree} {path : List Nat}
    (h : path ∈ addressesFrom i ts) : ∃ j rest, i ≤ j ∧ path = j :: rest := by
  induction ts generalizing i with
  | nil => cases h
  | cons t ts ih =>
    rw [addressesFrom, List.mem_append, List.mem_map] at h
    obtain ⟨rest, -, rfl⟩ | h := h
    · exact ⟨i, rest, Nat.le_refl i, rfl⟩
    · obtain ⟨j, rest, hj, rfl⟩ := ih h
      exact ⟨j, rest, by omega, rfl⟩

mutual
/-- The addresses are in the order of a dictionary. -/
theorem pairwise_addresses : ∀ t : SyntaxTree, t.addresses.Pairwise (· < ·)
  | node _ _ _ cs => by
    rw [addresses, List.pairwise_cons]
    refine ⟨fun path hpath => ?_, pairwise_addressesFrom 0 cs⟩
    obtain ⟨j, rest, -, rfl⟩ := exists_of_mem_addressesFrom hpath
    exact List.nil_lt_cons j rest

theorem pairwise_addressesFrom (i : Nat) : ∀ ts : List SyntaxTree, (addressesFrom i ts).Pairwise (· < ·)
  | [] => List.Pairwise.nil
  | t :: rest => by
    rw [addressesFrom, List.pairwise_append]
    refine ⟨?_, pairwise_addressesFrom (i + 1) rest, ?_⟩
    · refine List.pairwise_map.mpr ((pairwise_addresses t).imp fun h => ?_)
      exact List.cons_lt_cons_iff.mpr (.inr ⟨rfl, h⟩)
    · intro path hpath later hlater
      obtain ⟨tail, -, rfl⟩ := List.mem_map.mp hpath
      obtain ⟨j, tail', hj, rfl⟩ := exists_of_mem_addressesFrom hlater
      exact List.cons_lt_cons_iff.mpr (.inl hj)
end

theorem cons_mem_addressesFrom {i j : Nat} {ts : List SyntaxTree} {path : List Nat} :
    j :: path ∈ addressesFrom i ts ↔ ∃ n t, j = i + n ∧ ts[n]? = some t ∧ path ∈ t.addresses := by
  induction ts generalizing i with
  | nil => simp [addressesFrom]
  | cons t ts ih =>
    rw [addressesFrom, List.mem_append, List.mem_map, ih]
    constructor
    · rintro (⟨tail, htail, heq⟩ | ⟨n, u, rfl, hu, hpath⟩)
      · obtain ⟨rfl, rfl⟩ := List.cons.inj heq
        exact ⟨0, t, rfl, rfl, htail⟩
      · exact ⟨n + 1, u, by omega, hu, hpath⟩
    · rintro ⟨n, u, rfl, hu, hpath⟩
      cases n with
      | zero =>
        obtain rfl := Option.some.inj hu
        exact .inl ⟨path, hpath, rfl⟩
      | succ n => exact .inr ⟨n, u, by omega, hu, hpath⟩

/-- All places of a tree have an address in the list, and no others. -/
theorem mem_addresses {t : SyntaxTree} {parent : Option SyntaxTree} {path : List Nat} :
    path ∈ t.addresses ↔ (Visit.down? path ⟨t, parent⟩).isSome = true := by
  induction path generalizing t parent with
  | nil =>
    obtain ⟨r, k, s, cs⟩ := t
    simp [addresses, Visit.down?]
  | cons i path ih =>
    obtain ⟨r, k, s, cs⟩ := t
    have hpart : i :: path ∈ (node r k s cs).addresses ↔ ∃ t, cs[i]? = some t ∧ path ∈ t.addresses := by
      simp [addresses, cons_mem_addressesFrom]
    have hdown : Visit.down? (i :: path) ⟨node r k s cs, parent⟩ =
        cs[i]?.bind fun t => Visit.down? path ⟨t, some (node r k s cs)⟩ := by
      rw [Visit.down?, Visit.below, List.getElem?_map, Option.bind_map]
      rfl
    rw [hpart, hdown]
    cases cs[i]? with
    | none => simp
    | some t => simpa using ih

mutual
/-- The recursive listing goes through the nodes in the order of their addresses. -/
theorem map_preorder (parent : Option SyntaxTree) :
    ∀ t : SyntaxTree, (t.preorder parent).map some = t.addresses.map fun path => Visit.down? path ⟨t, parent⟩
  | node r k s cs => by
    rw [preorder, addresses, List.map_cons, List.map_cons, map_preorders ⟨node r k s cs, parent⟩ 0 cs rfl]
    rfl

theorem map_preorders (v : Visit) (i : Nat) : ∀ ts : List SyntaxTree,
    v.below.drop i = ts.map (fun t => ⟨t, some v.tree⟩) →
      (preorders (some v.tree) ts).map some = (addressesFrom i ts).map fun path => v.down? path
  | [], _ => rfl
  | t :: rest, h => by
    have hhere : v.below[i]? = some ⟨t, some v.tree⟩ := by
      rw [← List.head?_drop, h, List.map_cons, List.head?_cons]
    have hlater : v.below.drop (i + 1) = rest.map fun t => ⟨t, some v.tree⟩ := by
      rw [← List.tail_drop, h, List.map_cons, List.tail_cons]
    have hdown : ∀ path, v.down? (i :: path) = Visit.down? path ⟨t, some v.tree⟩ := by
      intro path
      rw [Visit.down?, hhere, Option.bind_some]
    rw [preorders, addressesFrom, List.map_append, List.map_append, map_preorder (some v.tree) t,
      map_preorders v (i + 1) rest hlater, List.map_map]
    simp only [Function.comp_def, hdown]
end

/-- The loop of a walk ends after as many rounds as the tree has nodes, and the walk is the recursive listing. It visits
every place of the tree once, in the order of the addresses. -/
theorem walk_preorder (t : SyntaxTree) :
    (∀ n, (Walk.round^[n] (Walk.start t)).stack = [] ↔ t.size ≤ n) ∧
    (Walk.round^[t.size] (Walk.start t)).visited = t.walk ∧
    t.walk = t.preorder none ∧
    t.addresses.Pairwise (· < ·) ∧
    (∀ path, path ∈ t.addresses ↔ (Visit.down? path ⟨t, none⟩).isSome = true) ∧
    t.walk.map some = t.addresses.map fun path => Visit.down? path ⟨t, none⟩ := by
  have hwalk := walk_eq_preorder t
  refine ⟨Walk.stack_rounds_eq_nil_iff t, ?_, hwalk, pairwise_addresses t, fun _ => mem_addresses, ?_⟩
  · rw [hwalk]
    exact Walk.visited_rounds (Nat.le_refl t.size)
  · rw [hwalk]
    exact map_preorder none t

end RiskGauge.SyntaxTree
