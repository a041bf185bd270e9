import RiskGauge.Detect.Permission
import RiskGauge.Proofs.Pattern.Longer
import RiskGauge.Structure.Schema

/-!
# Added lines hide nothing

The signs of permissions and of a changed schema are patterns, and these keep their matches when lines are added to a
source, before it or behind it (`KeptByLines`). So the risk of the permissions does not fall (`Permission.risk_feed`),
and a change of a schema stays one (`Schema.keptByLines_changes`). The name of a bad package lies in one line, so the
repute of two sources together is the worse one of the two (`Permission.reputation_feed`). All numbers are the doubles
that are computed.
-/

namespace RiskGauge

/-- What holds of a text holds as well when lines are added before it or behind it. -/
def KeptByLines (holds : List Char → Bool) : Prop :=
  ∀ c t, holds c ≤ holds (c ++ '\n' :: t) ∧ holds t ≤ holds (c ++ '\n' :: t)

namespace KeptByLines

variable {f g : List Char → Bool}

theorem occursIn {p : Pattern} (hp : p.keepsMatches = true) : KeptByLines p.occursIn := by
  intro c t
  refine ⟨Bool.le_iff_imp.mpr fun h => ?_, Bool.le_iff_imp.mpr fun h => ?_⟩
  · exact Pattern.occursIn_feed hp (.inl h)
  · exact Pattern.occursIn_feed hp (.inr h)

theorem and (hf : KeptByLines f) (hg : KeptByLines g) : KeptByLines fun text => f text && g text := by
  have hle : ∀ a b a' b' : Bool, a ≤ a' → b ≤ b' → (a && b) ≤ (a' && b') := by decide
  intro c t
  exact ⟨hle _ _ _ _ (hf c t).1 (hg c t).1, hle _ _ _ _ (hf c t).2 (hg c t).2⟩

theorem or (hf : KeptByLines f) (hg : KeptByLines g) : KeptByLines fun text => f text || g text := by
  have hle : ∀ a b a' b' : Bool, a ≤ a' → b ≤ b' → (a || b) ≤ (a' || b') := by decide
  intro c t
  exact ⟨hle _ _ _ _ (hf c t).1 (hg c t).1, hle _ _ _ _ (hf c t).2 (hg c t).2⟩

end KeptByLines

/-! ## Permissions and packages -/

namespace Permission

/-- The risk of three permissions, each of which is used or not. -/
def riskOf (starts changes reads : Bool) : Float :=
  let add (used : Bool) (weight sum : Float) : Float := if used then sum + weight else sum
  Scalar.clamp (add reads 0.3 (add changes 0.3 (add starts 0.4 0.0)))

theorem risk_eq (text : List Char) :
    risk text = riskOf (processStart.occursIn text) (fileChange.occursIn text) (secretAccess.occursIn text) := rfl

/-- With more permissions the risk is not smaller. -/
theorem riskOf_mono : ∀ a b c a' b' c' : Bool, a ≤ a' → b ≤ b' → c ≤ c' → riskOf a b c ≤ riskOf a' b' c' := by
  decide +kernel

theorem keptByLines_processStart : KeptByLines processStart.occursIn := .occursIn (by decide)

theorem keptByLines_fileChange : KeptByLines fileChange.occursIn := .occursIn (by decide)

theorem keptByLines_secretAccess : KeptByLines secretAccess.occursIn := .occursIn (by decide)

theorem risk_feed (c t : List Char) :
    (risk c : Float) ≤ risk (c ++ '\n' :: t) ∧ (risk t : Float) ≤ risk (c ++ '\n' :: t) := by
  obtain ⟨hstarts, hstarts'⟩ := keptByLines_processStart c t
  obtain ⟨hchanges, hchanges'⟩ := keptByLines_fileChange c t
  obtain ⟨hreads, hreads'⟩ := keptByLines_secretAccess c t
  simp only [risk_eq]
  exact ⟨riskOf_mono _ _ _ _ _ _ hstarts hchanges hreads, riskOf_mono _ _ _ _ _ _ hstarts' hchanges' hreads'⟩

/-- The repute of two sources together is the worse one of the two. -/
theorem reputation_feed (c t : List Char) :
    (reputation (c ++ '\n' :: t) : Float) = Scalar.smaller (reputation c) (reputation t) := by
  have hname := Pattern.occursIn_feed_iff (p := badPackage) (by decide) (by decide) c t
  have hsmaller : ∀ a b : Bool, (if a || b then (0.1 : Float) else 0.65) =
      Scalar.smaller (if a then 0.1 else 0.65) (if b then 0.1 else 0.65) := by decide +kernel
  rw [reputation, hname]
  exact hsmaller _ _

end Permission

/-! ## Schemas -/

namespace Schema

theorem changes_eq (text : List Char) : changes text =
    (tableStatement.occursIn text || mappedEntity.occursIn text ||
      (modelBody.occursIn text && modelTool.occursIn text) || tableCall.occursIn text) := by
  simp only [changes, findings]
  cases tableStatement.occursIn text <;> cases mappedEntity.occursIn text <;>
    cases (modelBody.occursIn text && modelTool.occursIn text) <;> cases tableCall.occursIn text <;> rfl

theorem keptByLines_changes : KeptByLines changes := by
  have htable : KeptByLines tableStatement.occursIn := .occursIn (by decide)
  have hentity : KeptByLines mappedEntity.occursIn := .occursIn (by decide)
  have hbody : KeptByLines modelBody.occursIn := .occursIn (by decide)
  have htool : KeptByLines modelTool.occursIn := .occursIn (by decide)
  have hcall : KeptByLines tableCall.occursIn := .occursIn (by decide)
  have hchanges := ((htable.or hentity).or (hbody.and htool)).or hcall
  rwa [← funext changes_eq] at hchanges

end Schema

/-- Lines that are added to a source hide no permission, no bad package and no change of a schema. -/
theorem added_lines_hide_nothing (c t : List Char) :
    (Scalar.greater (Permission.risk c) (Permission.risk t) : Float) ≤ Permission.risk (c ++ '\n' :: t) ∧
    (Permission.reputation (c ++ '\n' :: t) : Float) =
      Scalar.smaller (Permission.reputation c) (Permission.reputation t) ∧
    (Schema.changes c = true ∨ Schema.changes t = true → Schema.changes (c ++ '\n' :: t) = true) := by
  obtain ⟨hc, ht⟩ := Permission.risk_feed c t
  obtain ⟨hc', ht'⟩ := Schema.keptByLines_changes c t
  refine ⟨?_, Permission.reputation_feed c t, ?_⟩
  · rw [Scalar.greater]
    split
    · exact ht
    · exact hc
  · rintro (h | h)
    · exact Bool.le_iff_imp.mp hc' h
    · exact Bool.le_iff_imp.mp ht' h

end RiskGauge
