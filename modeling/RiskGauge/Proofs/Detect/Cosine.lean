import Mathlib.Algebra.BigOperators.Finprod
import Mathlib.Algebra.Order.BigOperators.Ring.Finset
import RiskGauge.Proofs.Curves
import RiskGauge.Proofs.Detect.VectorScan

/-!
# The angle between two vectors

A vector gives a weight to each name, zero to all but a few. The sums that make up a cosine run over the names of two
vectors in some order. Over the numbers of any ordered field each of them is the sum over all names there are
(`dot_eq_pairing`), so a cosine depends on the weights alone (`cosine_eq`), and not on which names are listed with the
weight zero (`SameNonzero.weight_eq`). The inequality of Cauchy and Schwarz holds for the sums (`dot_sq_le`); with an
exact root the cosine is then between minus one and one (`cosine_mem`), it does not depend on the lengths of the
vectors (`cosine_scaled`), and it is one for a vector with itself (`cosine_self`). `cosine_laws` puts them together.
-/

namespace RiskGauge.VectorScan

attribute [local instance] Scalar.ofField

/-! ## Sums over all names -/

section Names

variable {α : Type} {a b : Entries α}

theorem mem_jointNames {name : String} : name ∈ jointNames a b ↔ name ∈ a.names ∨ name ∈ b.names := by
  have hhas : a.has name = true ↔ name ∈ a.names := Entries.isSome_find?
  rw [jointNames, List.mem_append, List.mem_filter, Bool.not_eq_true', ← Bool.not_eq_true, hhas]
  tauto

theorem names_subset_left (a b : Entries α) : a.names ⊆ jointNames a b := fun _ h => mem_jointNames.mpr (.inl h)

theorem names_subset_right (a b : Entries α) : b.names ⊆ jointNames a b := fun _ h => mem_jointNames.mpr (.inr h)

theorem nodup_jointNames (ha : a.names.Nodup) (hb : b.names.Nodup) : (jointNames a b).Nodup := by
  refine List.nodup_append.mpr ⟨ha, hb.filter _, ?_⟩
  rintro name hname _ hother rfl
  have hhas : a.has name = true := Entries.isSome_find?.mpr hname
  simp [hhas] at hother

end Names

variable {K : Type} [Field K]

/-- The sum of the products of the weights of all names. -/
noncomputable def pairing (u v : String → K) : K :=
  ∑ᶠ name, u name * v name

theorem pairing_comm (u v : String → K) : pairing u v = pairing v u :=
  finsum_congr fun name => mul_comm (u name) (v name)

/-- A multiple of a vector. -/
def scaled (c : K) (a : Entries K) : Entries K :=
  a.map fun e => (e.1, c * e.2)

theorem names_scaled (c : K) (a : Entries K) : (scaled c a).names = a.names := by
  simp [scaled, Entries.names]

variable [LinearOrder K]

theorem weight_of_mem {a : Entries K} (ha : a.names.Nodup) {name : String} {w : K} (h : (name, w) ∈ a) :
    weight a name = w := by
  rw [weight, (Entries.mem_iff_find? ha).mp h]
  rfl

variable [IsStrictOrderedRing K]

theorem weight_of_find? {a : Entries K} {name : String} (h : a.find? name = none) : weight a name = 0 := by
  rw [weight, h]
  norm_num

/-- A name with a weight other than zero is listed with it. -/
theorem mem_of_weight_ne_zero {a : Entries K} {name : String} (h : weight a name ≠ 0) :
    (name, weight a name) ∈ a := by
  induction a with
  | nil => exact absurd (weight_of_find? rfl) h
  | cons e a ih =>
    obtain ⟨n, w⟩ := e
    by_cases hn : n = name
    · subst hn
      simp [weight, Entries.find?]
    · have hrest : weight ((n, w) :: a) name = weight a name := by simp [weight, Entries.find?, hn]
      rw [hrest] at h ⊢
      exact List.mem_cons_of_mem _ (ih h)

/-- The sum over all names is one over any names among which are those of the first vector. -/
theorem pairing_eq_sum {a : Entries K} {names : List String} (ha : a.names ⊆ names) (v : String → K) :
    pairing (weight a) v = ∑ name ∈ names.toFinset, weight a name * v name := by
  refine finsum_eq_sum_of_support_subset _ fun name hname => ?_
  have hmem := mem_of_weight_ne_zero (left_ne_zero_of_mul hname)
  exact List.mem_toFinset.mpr (ha (List.mem_map_of_mem hmem))

/-- So is the sum that runs over these names in any order, each of them once. -/
theorem dot_eq_pairing {names : List String} (hnames : names.Nodup) {a : Entries K} (ha : a.names ⊆ names)
    (b : Entries K) : dot names a b = pairing (weight a) (weight b) := by
  rw [dot, Scalar.sum_eq, pairing_eq_sum ha, List.sum_toFinset _ hnames]

section Vectors

variable {a b : Entries K}

theorem dot_joint (ha : a.names.Nodup) (hb : b.names.Nodup) :
    dot (jointNames a b) a b = pairing (weight a) (weight b) ∧
      dot (jointNames a b) a a = pairing (weight a) (weight a) ∧
      dot (jointNames a b) b b = pairing (weight b) (weight b) := by
  have hnames := nodup_jointNames ha hb
  exact ⟨dot_eq_pairing hnames (names_subset_left a b) b, dot_eq_pairing hnames (names_subset_left a b) a,
    dot_eq_pairing hnames (names_subset_right a b) b⟩

/-- A cosine depends on the weights of the names alone. -/
theorem cosine_eq (curves : Curves K) (ha : a.names.Nodup) (hb : b.names.Nodup) :
    cosine curves a b = if pairing (weight a) (weight a) = 0 ∨ pairing (weight b) (weight b) = 0 then 0 else
      pairing (weight a) (weight b) /
        (curves.sqrt (pairing (weight a) (weight a)) * curves.sqrt (pairing (weight b) (weight b))) := by
  obtain ⟨hab, haa, hbb⟩ := dot_joint ha hb
  simp only [cosine, hab, haa, hbb, Scalar.isZero, Bool.or_eq_true, decide_eq_true_eq]
  norm_num

/-! ## Lengths -/

theorem pairing_self_nonneg (a : Entries K) : 0 ≤ pairing (weight a) (weight a) :=
  finsum_nonneg fun name => mul_self_nonneg (weight a name)

theorem pairing_self_eq_zero_iff : pairing (weight a) (weight a) = 0 ↔ ∀ name, weight a name = 0 := by
  rw [pairing_eq_sum (List.Subset.refl a.names),
    Finset.sum_eq_zero_iff_of_nonneg fun name _ => mul_self_nonneg (weight a name)]
  constructor
  · intro h name
    by_contra hname
    have hlisted : name ∈ a.names := List.mem_map_of_mem (mem_of_weight_ne_zero hname)
    exact hname (mul_self_eq_zero.mp (h name (List.mem_toFinset.mpr hlisted)))
  · intro h name _
    rw [h name, mul_zero]

/-- The inequality of Cauchy and Schwarz. -/
theorem pairing_sq_le (a b : Entries K) :
    pairing (weight a) (weight b) ^ 2 ≤ pairing (weight a) (weight a) * pairing (weight b) (weight b) := by
  have hleft := names_subset_left a b
  rw [pairing_eq_sum hleft, pairing_eq_sum hleft, pairing_eq_sum (names_subset_right a b)]
  simp only [← pow_two]
  exact Finset.sum_mul_sq_le_sq_mul_sq _ (weight a) (weight b)

theorem dot_sq_le (ha : a.names.Nodup) (hb : b.names.Nodup) :
    dot (jointNames a b) a b ^ 2 ≤ dot (jointNames a b) a a * dot (jointNames a b) b b := by
  obtain ⟨hab, haa, hbb⟩ := dot_joint ha hb
  rw [hab, haa, hbb]
  exact pairing_sq_le a b

/-- With an exact root, the product of the lengths of two vectors is not below the sum of the products. -/
theorem abs_pairing_le {curves : Curves K} (h : curves.ExactRoot) (a b : Entries K) :
    |pairing (weight a) (weight b)| ≤
      curves.sqrt (pairing (weight a) (weight a)) * curves.sqrt (pairing (weight b) (weight b)) := by
  have haa := pairing_self_nonneg a
  have hbb := pairing_self_nonneg b
  refine abs_le_of_sq_le_sq ?_ (mul_nonneg (h.nonneg _ haa) (h.nonneg _ hbb))
  calc
    pairing (weight a) (weight b) ^ 2 ≤ pairing (weight a) (weight a) * pairing (weight b) (weight b) :=
      pairing_sq_le a b
    _ = (curves.sqrt (pairing (weight a) (weight a)) * curves.sqrt (pairing (weight b) (weight b))) ^ 2 := by
      rw [mul_pow, pow_two, pow_two, h.mul_self _ haa, h.mul_self _ hbb]

/-! ## Cosines -/

theorem cosine_of_zero (curves : Curves K) (ha : a.names.Nodup) (hb : b.names.Nodup)
    (h : (∀ e ∈ a, e.2 = 0) ∨ ∀ e ∈ b, e.2 = 0) : cosine curves a b = 0 := by
  have hzero : ∀ {c : Entries K}, (∀ e ∈ c, e.2 = 0) → pairing (weight c) (weight c) = 0 := by
    intro c hc
    refine pairing_self_eq_zero_iff.mpr fun name => ?_
    by_contra hname
    exact hname (hc _ (mem_of_weight_ne_zero hname))
  rw [cosine_eq curves ha hb, if_pos (h.imp hzero hzero)]

/-- The same entries apart from some of the weight zero. -/
def SameNonzero (a b : Entries K) : Prop :=
  ∀ name w, w ≠ 0 → ((name, w) ∈ a ↔ (name, w) ∈ b)

theorem SameNonzero.weight_eq (ha : a.names.Nodup) (hb : b.names.Nodup) (h : SameNonzero a b) :
    weight a = weight b := by
  funext name
  by_cases hname : weight a name = 0
  · by_contra hne
    have hb0 : weight b name ≠ 0 := fun hb0 => hne (hname.trans hb0.symm)
    exact hne (weight_of_mem ha ((h name _ hb0).mpr (mem_of_weight_ne_zero hb0)))
  · exact (weight_of_mem hb ((h name _ hname).mp (mem_of_weight_ne_zero hname))).symm

theorem weight_scaled (c : K) (a : Entries K) (name : String) : weight (scaled c a) name = c * weight a name := by
  induction a with
  | nil =>
    show weight [] name = c * weight [] name
    rw [weight_of_find? rfl, mul_zero]
  | cons e a ih =>
    by_cases hname : e.1 = name
    · simp [scaled, weight, Entries.find?, hname]
    · simpa [scaled, weight, Entries.find?, hname] using ih

theorem pairing_scaled (c d : K) (a b : Entries K) :
    pairing (weight (scaled c a)) (weight (scaled d b)) = c * d * pairing (weight a) (weight b) := by
  rw [pairing, pairing, ← smul_eq_mul, smul_finsum]
  refine finsum_congr fun name => ?_
  rw [weight_scaled, weight_scaled, smul_eq_mul]
  ring

variable {curves : Curves K} (h : curves.ExactRoot)

include h

theorem cosine_mem (ha : a.names.Nodup) (hb : b.names.Nodup) : -1 ≤ cosine curves a b ∧ cosine curves a b ≤ 1 := by
  rw [← abs_le, cosine_eq curves ha hb]
  split
  · simp
  · rename_i hnonzero
    rw [not_or] at hnonzero
    have hpos := mul_pos (h.pos (lt_of_le_of_ne (pairing_self_nonneg a) (Ne.symm hnonzero.1)))
      (h.pos (lt_of_le_of_ne (pairing_self_nonneg b) (Ne.symm hnonzero.2)))
    rw [abs_div, abs_of_pos hpos, div_le_one hpos]
    exact abs_pairing_le h a b

/-- The lengths of the vectors do not matter. -/
theorem cosine_scaled (ha : a.names.Nodup) (hb : b.names.Nodup) {c d : K} (hc : 0 < c) (hd : 0 < d) :
    cosine curves (scaled c a) (scaled d b) = cosine curves a b := by
  have hself : ∀ (c : K) (a : Entries K),
      pairing (weight (scaled c a)) (weight (scaled c a)) = c ^ 2 * pairing (weight a) (weight a) := by
    intro c a
    rw [pairing_scaled, pow_two]
  have hsqrt : ∀ {c : K} (a : Entries K), 0 < c →
      curves.sqrt (c ^ 2 * pairing (weight a) (weight a)) = c * curves.sqrt (pairing (weight a) (weight a)) :=
    fun a hc => h.sq_mul hc.le (pairing_self_nonneg a)
  rw [cosine_eq curves (names_scaled c a ▸ ha) (names_scaled d b ▸ hb), cosine_eq curves ha hb, hself c a, hself d b,
    hsqrt a hc, hsqrt b hd, pairing_scaled]
  simp only [mul_eq_zero, pow_eq_zero_iff two_ne_zero, hc.ne', hd.ne', false_or]
  rw [mul_mul_mul_comm, mul_div_mul_left _ _ (mul_pos hc hd).ne']

theorem cosine_self (ha : a.names.Nodup) (hnonzero : ∃ e ∈ a, e.2 ≠ 0) : cosine curves a a = 1 := by
  obtain ⟨⟨name, w⟩, hmem, hw⟩ := hnonzero
  have hne : pairing (weight a) (weight a) ≠ 0 := fun hzero =>
    hw ((weight_of_mem ha hmem).symm.trans (pairing_self_eq_zero_iff.mp hzero name))
  rw [cosine_eq curves ha ha, if_neg (not_or.mpr ⟨hne, hne⟩), h.mul_self _ (pairing_self_nonneg a), div_self hne]

end Vectors

/-! ## All laws together -/

/-- What holds of the cosine of the angle between two vectors, and of the sums that it is made of. -/
structure CosineLaws (curves : Curves K) (a b : Entries K) : Prop where
  dot_sq_le : dot (jointNames a b) a b ^ 2 ≤ dot (jointNames a b) a a * dot (jointNames a b) b b
  dot_comm : dot (jointNames a b) a b = dot (jointNames b a) b a
  /-- The order in which the names are run through does not matter. -/
  dot_order : ∀ names, names.Nodup → (∀ name, name ∈ names ↔ name ∈ a.names ∨ name ∈ b.names) →
    ∀ c d : Entries K, dot names c d = dot (jointNames a b) c d
  of_zero : (∀ e ∈ a, e.2 = 0) ∨ (∀ e ∈ b, e.2 = 0) → cosine curves a b = 0
  /-- Names of the weight zero may be added to a vector, and left out of it. -/
  of_sameNonzero : ∀ a' b' : Entries K, a'.names.Nodup → b'.names.Nodup → SameNonzero a' a → SameNonzero b' b →
    cosine curves a' b' = cosine curves a b
  mem_range : curves.ExactRoot → -1 ≤ cosine curves a b ∧ cosine curves a b ≤ 1
  of_scaled : curves.ExactRoot → ∀ c d : K, 0 < c → 0 < d →
    cosine curves (scaled c a) (scaled d b) = cosine curves a b
  self : curves.ExactRoot → (∃ e ∈ a, e.2 ≠ 0) → cosine curves a a = 1

/-- All laws hold for vectors with weights of any sign. Only those that are about lengths need an exact root. -/
theorem cosine_laws (curves : Curves K) {a b : Entries K} (ha : a.names.Nodup) (hb : b.names.Nodup) :
    CosineLaws curves a b where
  dot_sq_le := dot_sq_le ha hb
  dot_comm := by
    rw [(dot_joint ha hb).1, (dot_joint hb ha).1, pairing_comm]
  dot_order names hnames hall c d := by
    refine dot_perm ((List.perm_ext_iff_of_nodup hnames (nodup_jointNames ha hb)).mpr fun name => ?_) c d
    rw [hall, mem_jointNames]
  of_zero := cosine_of_zero curves ha hb
  of_sameNonzero a' b' ha' hb' hsame hsame' := by
    rw [cosine_eq curves ha' hb', cosine_eq curves ha hb, hsame.weight_eq ha' ha, hsame'.weight_eq hb' hb]
  mem_range h := cosine_mem h ha hb
  of_scaled h _ _ := cosine_scaled h ha hb
  self h := cosine_self h ha

/-- Two vectors of real numbers with a negative weight and a weight of zero. -/
theorem cosine_laws_signed :
    let a : Entries ℝ := [("eval", 3), ("exec", -4)]
    let b : Entries ℝ := [("exec", 2), ("x", 0)]
    a.names.Nodup ∧ b.names.Nodup ∧ Curves.real.ExactRoot ∧ CosineLaws Curves.real a b ∧
      cosine Curves.real a a = 1 ∧ cosine Curves.real a [("exec", 2)] = cosine Curves.real a b ∧
      cosine Curves.real (scaled (1 / 2) a) (scaled 7 b) = cosine Curves.real a b := by
  intro a b
  have ha : a.names.Nodup := by decide
  have hb : b.names.Nodup := by decide
  have hlaws := cosine_laws Curves.real ha hb
  have hpadded : SameNonzero [("exec", 2)] b := by
    intro name w hw
    simp only [b, List.mem_cons, List.not_mem_nil, or_false, Prod.mk.injEq]
    exact ⟨.inl, fun h => h.resolve_right fun h => hw h.2⟩
  refine ⟨ha, hb, Curves.real_exactRoot, hlaws, hlaws.self Curves.real_exactRoot ?_,
    hlaws.of_sameNonzero a [("exec", 2)] ha (by decide) (fun _ _ _ => Iff.rfl) hpadded,
    hlaws.of_scaled Curves.real_exactRoot (1 / 2) 7 (by norm_num) (by norm_num)⟩
  exact ⟨("eval", 3), List.mem_cons_self, by norm_num⟩

end RiskGauge.VectorScan
