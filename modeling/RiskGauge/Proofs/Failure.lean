import Mathlib.Data.List.Forall2

/-!
# Computations that can fail

When steps in a row give a value: each of them has to (`bind_eq_ok`, `exists_bind_ok`). Where the steps are those for
the items of a list, the first one that fails decides (`mapM_ok_or_error`, `mapM_cases`).
-/

namespace RiskGauge

variable {ε α β : Type}

theorem bind_eq_ok {x : Except ε α} {f : α → Except ε β} {b : β} :
    x >>= f = .ok b ↔ ∃ a, x = .ok a ∧ f a = .ok b := by
  cases x with
  | error e => simp [bind, Except.bind]
  | ok a => simp [bind, Except.bind]

theorem pure_eq_ok {a b : α} : (pure a : Except ε α) = .ok b ↔ a = b :=
  Except.ok.injEq a b ▸ Iff.rfl

theorem exists_bind_ok {x : Except ε α} {f : α → Except ε β} :
    (∃ b, x >>= f = .ok b) ↔ ∃ a, x = .ok a ∧ ∃ b, f a = .ok b := by
  simp only [bind_eq_ok, ← exists_and_left]
  exact exists_comm

theorem exists_pure_ok (a : α) : ∃ b, (pure a : Except ε α) = .ok b :=
  ⟨a, rfl⟩

theorem exists_ok_of_toOption_map {x : Except ε α} {f : α → β} {b : β} (h : x.toOption.map f = some b) :
    ∃ a, x = .ok a ∧ f a = b := by
  cases x with
  | error e => cases h
  | ok a => exact ⟨a, rfl, Option.some.inj h⟩

/-- Reading the items of a list one by one keeps their number. -/
theorem length_of_mapM_ok {f : α → Except ε β} {xs : List α} {ys : List β} (h : xs.mapM f = .ok ys) :
    ys.length = xs.length := by
  induction xs generalizing ys with
  | nil =>
    rw [List.mapM_nil, pure_eq_ok] at h
    rw [← h]
    rfl
  | cons x xs ih =>
    simp only [List.mapM_cons, bind_eq_ok, pure_eq_ok] at h
    obtain ⟨y, -, zs, hzs, rfl⟩ := h
    rw [List.length_cons, List.length_cons, ih hzs]

/-- Reading the items of a list one by one gives all values, if every item has one. -/
theorem mapM_eq_ok_map {f : α → Except ε β} {g : α → β} {xs : List α} (h : ∀ x ∈ xs, f x = .ok (g x)) :
    xs.mapM f = .ok (xs.map g) := by
  induction xs with
  | nil => rfl
  | cons x xs ih =>
    rw [List.forall_mem_cons] at h
    rw [List.mapM_cons, h.1, ih h.2]
    rfl

theorem mapM_congr {f g : α → Except ε β} {xs : List α} (h : ∀ x ∈ xs, f x = g x) : xs.mapM f = xs.mapM g := by
  induction xs with
  | nil => rfl
  | cons x xs ih =>
    rw [List.forall_mem_cons] at h
    rw [List.mapM_cons, List.mapM_cons, h.1, ih h.2]

/-- Reading the items of a list one by one, where each has a property or is read: it stops at an item with the
property. -/
theorem mapM_cases {f : α → Except ε β} {e : ε} {P : α → Prop}
    (h : ∀ x, ¬ P x ∧ (∃ y, f x = .ok y) ∨ P x ∧ f x = .error e) (xs : List α) :
    (∀ x ∈ xs, ¬ P x) ∧ (∃ ys, xs.mapM f = .ok ys) ∨ (∃ x ∈ xs, P x) ∧ xs.mapM f = .error e := by
  induction xs with
  | nil => exact .inl ⟨fun _ hx => absurd hx List.not_mem_nil, [], rfl⟩
  | cons x xs ih =>
    rw [List.mapM_cons]
    obtain ⟨hx, y, hy⟩ | ⟨hx, herror⟩ := h x
    · obtain ⟨hxs, ys, hys⟩ | ⟨⟨z, hz, hPz⟩, herror⟩ := ih
      · exact .inl ⟨List.forall_mem_cons.mpr ⟨hx, hxs⟩, y :: ys, by rw [hy, hys]; rfl⟩
      · exact .inr ⟨⟨z, List.mem_cons_of_mem x hz, hPz⟩, by rw [hy, herror]; rfl⟩
    · exact .inr ⟨⟨x, List.mem_cons_self, hx⟩, by rw [herror]; rfl⟩

/-- Reading the items of a list one by one gives the values of all of them in order, or the error of one of them. -/
theorem mapM_ok_or_error (f : α → Except ε β) (xs : List α) :
    (∃ ys, xs.mapM f = .ok ys ∧ List.Forall₂ (fun x y => f x = .ok y) xs ys) ∨
      (∃ e, xs.mapM f = .error e ∧ ∃ x ∈ xs, f x = .error e) := by
  induction xs with
  | nil => exact .inl ⟨[], rfl, .nil⟩
  | cons x xs ih =>
    rw [List.mapM_cons]
    cases hx : f x with
    | error e => exact .inr ⟨e, rfl, x, List.mem_cons_self, hx⟩
    | ok y =>
      obtain ⟨ys, hys, hall⟩ | ⟨e, herror, z, hz, hfz⟩ := ih
      · exact .inl ⟨y :: ys, by rw [hys]; rfl, .cons hx hall⟩
      · exact .inr ⟨e, by rw [herror]; rfl, z, List.mem_cons_of_mem x hz, hfz⟩

theorem forall₂_of_mapM_ok {f : α → Except ε β} {xs : List α} {ys : List β} (h : xs.mapM f = .ok ys) :
    List.Forall₂ (fun x y => f x = .ok y) xs ys := by
  obtain ⟨zs, hzs, hall⟩ | ⟨e, herror, -⟩ := mapM_ok_or_error f xs
  · obtain rfl : zs = ys := Except.ok.inj (hzs.symm.trans h)
    exact hall
  · cases herror.symm.trans h

/-- Values that name the items they were read from. -/
theorem map_eq_of_forall₂_ok {f : α → Except ε β} {name : β → α} (hname : ∀ {x y}, f x = .ok y → name y = x)
    {xs : List α} {ys : List β} (h : List.Forall₂ (fun x y => f x = .ok y) xs ys) :
    ys.map name = xs ∧ ∀ y ∈ ys, f (name y) = .ok y := by
  induction h with
  | nil => exact ⟨rfl, fun _ hy => absurd hy List.not_mem_nil⟩
  | cons hxy _ ih =>
    obtain rfl := hname hxy
    exact ⟨by rw [List.map_cons, ih.1], List.forall_mem_cons.mpr ⟨hxy, ih.2⟩⟩

/-! ## Steps that could have other effects -/

/-- Steps that have no other effect than to fail. -/
theorem exceptT_bind (x : ExceptT ε Id α) (f : α → ExceptT ε Id β) : x >>= f = bind (m := Except ε) x f := by
  cases (x : Except ε α) <;> rfl

theorem mapM_exceptT (f : α → Except ε β) (xs : List α) : xs.mapM (m := ExceptT ε Id) f = xs.mapM (m := Except ε) f := by
  induction xs with
  | nil => rfl
  | cons x xs ih =>
    rw [List.mapM_cons, List.mapM_cons, exceptT_bind, ih]
    simp only [exceptT_bind]
    rfl

end RiskGauge
