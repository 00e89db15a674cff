/-
What comes from outside is read with checks. The checks of elements and exponents are exact: they
fail only on bytes that describe no member of the group, or no exponent, and say so by name.
-/
import TwoParty.Group.Basic
import Mathlib.Tactic

namespace TwoParty.CyclicGroup

variable {G : CyclicGroup} {name : String} {bytes : Bytes} {cause : Cheating}

/-! ## Elements -/

/-- The bytes describe the element `a`, and it is a member of the group. -/
def Describes (G : CyclicGroup) (bytes : Bytes) (a : G.Element) : Prop :=
  G.decode? bytes = some a ∧ G.isMember a = true

theorem decodeMember_eq_ok_iff {a : G.Element} :
    G.decodeMember name bytes = .ok a ↔ G.Describes bytes a := by
  unfold decodeMember Describes
  rcases G.decode? bytes with _ | b
  · simp
  · by_cases hb : G.isMember b = true
    · simp only [hb, if_true, Except.ok.injEq, Option.some.injEq]
      constructor
      · rintro rfl; exact ⟨rfl, hb⟩
      · exact And.left
    · simp only [hb, if_false, Option.some.injEq, reduceCtorEq, false_iff]
      rintro ⟨rfl, h⟩
      exact hb h

theorem decodeMember_eq_error_iff :
    G.decodeMember name bytes = .error cause ↔
      (∀ a, ¬ G.Describes bytes a) ∧ cause = .notMember name := by
  rcases h : G.decodeMember name bytes with cause' | a
  · -- the only error there is
    have hcause : cause' = .notMember name := by
      unfold decodeMember at h
      split at h
      · split at h <;> cases h
        rfl
      · cases h; rfl
    have hno : ∀ a, ¬ G.Describes bytes a := by
      intro a ha
      rw [decodeMember_eq_ok_iff.2 ha] at h
      cases h
    subst hcause
    rw [Except.error.injEq]
    exact ⟨fun heq => ⟨hno, heq.symm⟩, fun heq => heq.2.symm⟩
  · refine iff_of_false (by simp) ?_
    rintro ⟨hno, -⟩
    exact hno a (decodeMember_eq_ok_iff.1 h)

theorem decodeNontrivial_eq_ok_iff {a : G.Element} :
    G.decodeNontrivial name bytes = .ok a ↔ G.Describes bytes a ∧ a ≠ G.identity := by
  unfold decodeNontrivial
  rcases h : G.decodeMember name bytes with cause | b
  · have hno := (decodeMember_eq_error_iff.1 h).1
    exact iff_of_false (by rintro ⟨⟩) fun ⟨ha, _⟩ => hno a ha
  · rw [← decodeMember_eq_ok_iff, h]
    simp only [bind, Except.bind, Except.ok.injEq]
    split
    · rename_i hb
      exact iff_of_false (by simp) (by rintro ⟨rfl, hne⟩; exact hne hb)
    · rename_i hb
      constructor
      · rintro ⟨⟩; exact ⟨rfl, hb⟩
      · rintro ⟨rfl, -⟩; rfl

/-- The identity is a member, but is refused where it is of no use. -/
theorem decodeNontrivial_eq_identityElement_iff :
    G.decodeNontrivial name bytes = .error (.identityElement name) ↔
      G.Describes bytes G.identity := by
  unfold decodeNontrivial
  rcases h : G.decodeMember name bytes with cause | a
  · obtain ⟨hno, rfl⟩ := decodeMember_eq_error_iff.1 h
    exact iff_of_false nofun (hno G.identity)
  · simp only [bind, Except.bind]
    split
    · rename_i ha
      exact iff_of_true rfl (ha ▸ decodeMember_eq_ok_iff.1 h)
    · rename_i ha
      refine iff_of_false nofun fun hidentity => ha ?_
      rw [decodeMember_eq_ok_iff.2 hidentity] at h
      exact (Except.ok.inj h).symm

/-- Nothing else is refused. -/
theorem decodeNontrivial_eq_decodeMember (h : ¬ G.Describes bytes G.identity) :
    G.decodeNontrivial name bytes = G.decodeMember name bytes := by
  unfold decodeNontrivial
  rcases hdecode : G.decodeMember name bytes with cause | a
  · rfl
  · refine if_neg ?_
    rintro rfl
    exact h (decodeMember_eq_ok_iff.1 hdecode)

/-! ## Lists of elements -/

theorem mapM_decodeMember_eq_ok_iff {encodings : List Bytes} {elements : List G.Element} :
    encodings.mapM (G.decodeMember name) = .ok elements ↔
      List.Forall₂ G.Describes encodings elements := by
  induction encodings generalizing elements with
  | nil => cases elements <;> simp [pure, Except.pure]
  | cons bytes rest ih =>
    rw [List.mapM_cons]
    constructor
    · intro h
      rcases hb : G.decodeMember name bytes with cause | a
      · rw [hb] at h; cases h
      · rcases hr : rest.mapM (G.decodeMember name) with cause | as
        · rw [hb, hr] at h; cases h
        · rw [hb, hr] at h
          cases h
          exact .cons (decodeMember_eq_ok_iff.1 hb) (ih.1 hr)
    · rintro (_ | ⟨hb, hr⟩)
      rw [decodeMember_eq_ok_iff.2 hb, ih.2 hr]
      rfl

theorem mapM_decodeMember_eq_error_iff {encodings : List Bytes} :
    encodings.mapM (G.decodeMember name) = .error cause ↔
      (∃ bytes ∈ encodings, ∀ a, ¬ G.Describes bytes a) ∧ cause = .notMember name := by
  induction encodings with
  | nil => simp [pure, Except.pure]
  | cons bytes rest ih =>
    rw [List.mapM_cons]
    rcases hb : G.decodeMember name bytes with cause' | a
    · obtain ⟨hno, rfl⟩ := decodeMember_eq_error_iff.1 hb
      show Except.error _ = Except.error _ ↔ _
      rw [Except.error.injEq]
      exact ⟨fun h => ⟨⟨bytes, List.mem_cons_self, hno⟩, h.symm⟩, fun h => h.2.symm⟩
    · -- the first element is read, so the rest decides
      have hyes : G.Describes bytes a := decodeMember_eq_ok_iff.1 hb
      have hrest : (do
          let b ← Except.ok a
          let bs ← rest.mapM (G.decodeMember name)
          return b :: bs : Except Cheating (List G.Element)) = .error cause ↔
          rest.mapM (G.decodeMember name) = .error cause := by
        rcases rest.mapM (G.decodeMember name) with cause' | as
        · exact Iff.rfl
        · exact iff_of_false (by simp [bind, Except.bind, pure, Except.pure]) (by simp)
      rw [hrest, ih]
      simp only [List.mem_cons, exists_eq_or_imp, and_congr_left_iff]
      rintro -
      exact ⟨.inr, fun h => h.resolve_left fun hno => hno a hyes⟩

/-! ## Exponents -/

theorem decodeReceivedScalar_eq_ok_iff {a : G.Scalar} :
    G.decodeReceivedScalar name bytes = .ok a ↔ G.decodeScalar? bytes = some a := by
  unfold decodeReceivedScalar
  rcases G.decodeScalar? bytes with _ | b
  · simp
  · simp

theorem decodeReceivedScalar_eq_error_iff :
    G.decodeReceivedScalar name bytes = .error cause ↔
      G.decodeScalar? bytes = none ∧ cause = .invalidScalar name := by
  unfold decodeReceivedScalar
  rcases G.decodeScalar? bytes with _ | b
  · simp only [Except.error.injEq, true_and]
    exact eq_comm
  · simp

end TwoParty.CyclicGroup
