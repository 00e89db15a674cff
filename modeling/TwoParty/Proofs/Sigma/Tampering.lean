/-
What can be changed in an accepted transcript. Announcement and response determine each other once
the challenge is fixed, so neither can be replaced. The challenge can be replaced only where it has
no effect: where the images of the statement are the identity, whose powers are all the same.
-/
import TwoParty.Proofs.Sigma.Simulation

namespace TwoParty

open CyclicGroup

variable {G : CyclicGroup} {k : Nat}

/-! ## Statements -/

namespace Statement

/-- Some equation has the generator as its base. -/
def Anchored (S : Statement G k) : Prop :=
  ∃ (i : Nat) (_ : i < k), S[i].base = G.generator

/-- All images are the identity, so that every challenge asks for the same. -/
def Trivial (S : Statement G k) : Prop :=
  ∀ (i : Nat) (_ : i < k), S[i].image = G.identity

theorem anchored_logarithm (h : G.Element) : (logarithm G h).Anchored :=
  ⟨0, by omega, rfl⟩

theorem anchored_diffieHellman (h u v : G.Element) : (diffieHellman G h u v).Anchored :=
  ⟨0, by omega, rfl⟩

theorem trivial_logarithm_iff {h : G.Element} : (logarithm G h).Trivial ↔ h = G.identity := by
  constructor
  · intro htrivial
    exact htrivial 0 (by omega)
  · rintro rfl i hi
    obtain rfl : i = 0 := by omega
    rfl

theorem trivial_diffieHellman_iff {h u v : G.Element} :
    (diffieHellman G h u v).Trivial ↔ u = G.identity ∧ v = G.identity := by
  constructor
  · intro htrivial
    exact ⟨htrivial 0 (by omega), htrivial 1 (by omega)⟩
  · rintro ⟨rfl, rfl⟩ i hi
    obtain rfl | rfl : i = 0 ∨ i = 1 := by omega
    · rfl
    · rfl

variable {S : Statement G k} {a : Announcement G k} {e e' z z' : G.Scalar} (hG : G.PrimeOrder)
include hG

/-- Two responses to one challenge are equal. -/
theorem response_unique (hS : S.isValid = true) (hanchored : S.Anchored) (ha : a.isValid = true)
    (h : S.check a e z = true) (h' : S.check a e z' = true) : z' = z := by
  obtain ⟨i, hi, hbase⟩ := hanchored
  obtain ⟨-, y, -, hy⟩ := exists_logarithms hG hS i hi
  rw [hG.generator_eq_antilog] at hbase
  -- the challenges cancel, and the base has the logarithm one
  have hsub := mul_sub_eq_of_check hG ha h' h hi hbase hy
  rw [one_mul, sub_self, mul_zero, sub_eq_zero, toZMod_inj] at hsub
  exact hsub

/-- One response to two challenges makes the statement trivial. -/
theorem trivial_of_check (hS : S.isValid = true) (ha : a.isValid = true) (hne : e' ≠ e)
    (h : S.check a e z = true) (h' : S.check a e' z = true) : S.Trivial := by
  have := hG.fact
  intro i hi
  obtain ⟨b, y, hb, hy⟩ := exists_logarithms hG hS i hi
  have hsub := mul_sub_eq_of_check hG ha h' h hi hb hy
  have hne' : toZMod e' - toZMod e ≠ 0 := by rwa [ne_eq, sub_eq_zero, toZMod_inj]
  rw [sub_self, mul_zero, eq_comm, mul_eq_zero, or_iff_left hne'] at hsub
  rw [hy, hsub, hG.identity_eq_antilog]

theorem check_of_trivial (htrivial : S.Trivial) (h : S.check a e z = true) (e' : G.Scalar) :
    S.check a e' z = true := by
  rw [check_iff] at h ⊢
  intro i hi
  have hpower : ∀ e, G.exponentiate S[i].image e = G.identity := by
    intro e
    rw [htrivial i hi, hG.identity_eq_antilog, hG.exponentiate_antilog, zero_mul]
  have hcheck := h i hi
  rw [hpower] at hcheck ⊢
  exact hcheck

end Statement

/-! ## Verdicts -/

namespace SigmaRole

/-- What becomes of a transcript with another response, announcement or challenge: the verifier
accepts none of them, except that all challenges of the right length do if `trivial` holds. -/
structure Rigid (role : SigmaRole G) (S : Statement G k) (t : Transcript G k) (trivial : Prop) :
    Prop where
  response (z : G.Scalar) : role.AcceptsIff S ⟨t.a, t.e, z⟩ (z = t.z)
  announcement (a : Announcement G k) : role.AcceptsIff S ⟨a, t.e, t.z⟩ (a = t.a)
  challenge (e : Challenge) (he : e ≠ t.e) : role.AcceptsIff S ⟨t.a, e, t.z⟩
    (e.bytes.length = role.soundness.challengeLength ∧ trivial)

theorem rigid (hG : G.PrimeOrder) {role : SigmaRole G} {S : Statement G k}
    (hanchored : S.Anchored) {t : Transcript G k} (ht : role.Accepts S t) :
    role.Rigid S t S.Trivial := by
  rw [accepts_iff_verdict, verdict_iff] at ht
  obtain ⟨he, hS, ha, hcheck⟩ := ht
  have hsolved := (Statement.check_iff_eq_backSolve hG hS ha _ _).1 hcheck
  refine ⟨fun z => ?_, fun a => ?_, fun e hne => ?_⟩
  · rw [acceptsIff_iff_verdict, verdict_iff]
    constructor
    · rintro ⟨-, -, -, hcheck'⟩
      exact Statement.response_unique hG hS hanchored ha hcheck hcheck'
    · rintro rfl
      exact ⟨he, hS, ha, hcheck⟩
  · rw [acceptsIff_iff_verdict, verdict_iff]
    constructor
    · rintro ⟨-, -, ha', hcheck'⟩
      -- both announcements are the one that is solved for
      rw [← hsolved]
      exact ((Statement.check_iff_eq_backSolve hG hS ha' _ _).1 hcheck').symm
    · rintro rfl
      exact ⟨he, hS, ha, hcheck⟩
  · rw [acceptsIff_iff_verdict, verdict_iff]
    constructor
    · rintro ⟨he', -, -, hcheck'⟩
      have hne' : e.scalar G ≠ t.e.scalar G := by rwa [ne_eq, Challenge.scalar_inj he' he]
      exact ⟨he', Statement.trivial_of_check hG hS ha hne' hcheck hcheck'⟩
    · rintro ⟨he', htrivial⟩
      exact ⟨he', hS, ha, Statement.check_of_trivial hG htrivial hcheck _⟩

/-- Whatever is replaced in an accepted transcript, it is accepted no more; but when the logarithm
to be known is that of the identity, or the tuple raises both bases to the identity, then every
challenge of the right length will do. -/
theorem tampering_detected (hG : G.PrimeOrder) (role : SigmaRole G) :
    (∀ h t, role.Accepts (.logarithm G h) t →
      role.Rigid (.logarithm G h) t (h = G.identity)) ∧
    ∀ h u v t, role.Accepts (.diffieHellman G h u v) t →
      role.Rigid (.diffieHellman G h u v) t (u = G.identity ∧ v = G.identity) := by
  constructor
  · intro h t ht
    rw [← Statement.trivial_logarithm_iff]
    exact rigid hG (Statement.anchored_logarithm h) ht
  · intro h u v t ht
    rw [← Statement.trivial_diffieHellman_iff]
    exact rigid hG (Statement.anchored_diffieHellman h u v) ht

/-- A tuple whose images are the identity, for the witness zero. -/
def idle : Statement Residues.order281.group 2 :=
  .diffieHellman _ (exponentiateGenerator _ (scalar _ 2)) (identity _) (identity _)

/-- In a transcript for the logarithm seven nothing can be changed; in one for a tuple of the
identity the challenge can. -/
theorem tampering_detected_order281 :
    order281.Rigid seven ⟨seven.commit (scalar _ 3), ⟨[1]⟩, scalar _ 10⟩
        (exponentiateGenerator _ (scalar _ 7) = identity Residues.order281.group) ∧
      ¬ order281.Accepts seven ⟨seven.commit (scalar _ 3), ⟨[2]⟩, scalar _ 10⟩ ∧
      order281.Accepts idle ⟨idle.commit (scalar _ 3), ⟨[2]⟩, scalar _ 3⟩ := by
  obtain ⟨hlogarithm, htuple⟩ := tampering_detected Residues.primeOrder_order281 order281
  have hseven := hlogarithm (exponentiateGenerator _ (scalar _ 7))
    ⟨seven.commit (scalar _ 3), ⟨[1]⟩, scalar _ 10⟩ (accepts_iff_verdict.2 (by decide +kernel))
  have hidle := htuple (exponentiateGenerator _ (scalar _ 2)) (identity _) (identity _)
    ⟨idle.commit (scalar _ 3), ⟨[1]⟩, scalar _ 3⟩ (accepts_iff_verdict.2 (by decide +kernel))
  refine ⟨hseven, fun h => ?_, ?_⟩
  · have hverdict := acceptsIff_iff_verdict.1 (hseven.challenge ⟨[2]⟩ (by decide))
    exact absurd (hverdict.1 (accepts_iff_verdict.1 h)).2 (by decide +kernel)
  · have hverdict := acceptsIff_iff_verdict.1 (hidle.challenge ⟨[2]⟩ (by decide))
    exact accepts_iff_verdict.2 (hverdict.2 ⟨rfl, rfl, rfl⟩)

end SigmaRole

end TwoParty
