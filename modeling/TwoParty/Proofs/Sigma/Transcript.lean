/-
The verdict on a transcript: the verifier notes one event and accepts exactly if the challenge has
the right length, all elements are members, and the equations hold. From two accepted transcripts
with one announcement and different challenges a witness is computed, so a false statement leaves
every announcement at most one challenge that can be answered.
-/
import TwoParty.Program.Run
import TwoParty.Sigma.Transcript
import TwoParty.Proofs.Sigma.Challenge
import TwoParty.Proofs.Sigma.Statement
import TwoParty.Proofs.Group.Residues

namespace TwoParty

open CyclicGroup

variable {G : CyclicGroup} {k : Nat}

namespace SigmaRole

/-! ## The verdict -/

/-- Whether a transcript satisfies all that the verifier checks. -/
def verdict (role : SigmaRole G) (S : Statement G k) (t : Transcript G k) : Bool :=
  decide (t.e.bytes.length = role.soundness.challengeLength) && S.isValid && t.a.isValid &&
    S.check t.a (t.e.scalar G) t.z

variable {role : SigmaRole G} {S : Statement G k} {t : Transcript G k}

theorem verdict_iff :
    role.verdict S t = true ↔ t.e.bytes.length = role.soundness.challengeLength ∧
      S.isValid = true ∧ t.a.isValid = true ∧ S.check t.a (t.e.scalar G) t.z = true := by
  unfold verdict
  simp only [Bool.and_eq_true, decide_eq_true_iff, and_assoc]

/-- The verifier notes one event, which is a warning only if it refuses, and ends with the
verdict. -/
theorem verify_eq (role : SigmaRole G) (S : Statement G k) (t : Transcript G k) :
    ∃ event, role.verify S t = .note event (.done (role.verdict S t)) ∧
      (event.isWarning = true → role.verdict S t = false) := by
  unfold verify verdict
  rw [Challenge.isOk_check]
  by_cases he : t.e.bytes.length = role.soundness.challengeLength
  · cases hS : S.isValid with
    | false => exact ⟨⟨.warn, "statement contains non-members", [], role.span⟩, by simp [he]; rfl,
        by simp⟩
    | true =>
      cases ha : t.a.isValid with
      | false => exact ⟨⟨.warn, "first message contains non-members", [], role.span⟩,
          by simp [he]; rfl, by simp⟩
      | true =>
        refine ⟨⟨.debug, "sigma verification",
          [("accepted", toString (S.check t.a (t.e.scalar G) t.z))], role.span⟩, ?_, ?_⟩
        · simp [he]; rfl
        · intro h; cases h
  · exact ⟨⟨.warn, "challenge of invalid length", [], role.span⟩, by simp [he]; rfl, by simp [he]⟩

/-- The verifier accepts a transcript in some run. -/
def Accepts (role : SigmaRole G) (S : Statement G k) (t : Transcript G k) : Prop :=
  ∃ p o, (role.verify S t).run p = some o ∧ o.result = true

/-- The verdict is that of every run. -/
theorem run_verify (role : SigmaRole G) (S : Statement G k) (t : Transcript G k) (p : Endpoint) :
    ∃ event, (role.verify S t).run p = some ⟨role.verdict S t, p, [.noted event]⟩ := by
  obtain ⟨event, h, -⟩ := verify_eq role S t
  exact ⟨event, by rw [h]; rfl⟩

theorem verdict_of_run {p : Endpoint} {o : Outcome Bool} (h : (role.verify S t).run p = some o)
    (ho : o.result = true) : role.verdict S t = true := by
  obtain ⟨event, hrun⟩ := run_verify role S t p
  rw [hrun] at h
  cases h
  exact ho

theorem accepts_iff_verdict : role.Accepts S t ↔ role.verdict S t = true := by
  constructor
  · rintro ⟨p, o, h, ho⟩
    exact verdict_of_run h ho
  · intro h
    obtain ⟨event, hrun⟩ := run_verify role S t ⟨⟨fun _ => 0, 0, 0⟩, [], fun _ => true⟩
    exact ⟨_, _, hrun, h⟩

/-- Every run of the verifier ends, and accepts exactly if the condition holds. -/
def AcceptsIff (role : SigmaRole G) (S : Statement G k) (t : Transcript G k) (condition : Prop) :
    Prop :=
  ∀ p, ∃ o, (role.verify S t).run p = some o ∧ (o.result = true ↔ condition)

theorem acceptsIff_iff_verdict {condition : Prop} :
    role.AcceptsIff S t condition ↔ (role.verdict S t = true ↔ condition) := by
  constructor
  · intro h
    obtain ⟨o, hrun, ho⟩ := h ⟨⟨fun _ => 0, 0, 0⟩, [], fun _ => true⟩
    obtain ⟨event, hrun'⟩ := run_verify role S t ⟨⟨fun _ => 0, 0, 0⟩, [], fun _ => true⟩
    cases hrun.symm.trans hrun'
    exact ho
  · intro h p
    obtain ⟨event, hrun⟩ := run_verify role S t p
    exact ⟨_, hrun, h⟩

/-! ## Extraction -/

/-- The witness that the responses to two challenges give away, `(z - z') / (e - e')`. -/
def extract (e e' : Challenge) (z z' : G.Scalar) : G.Scalar :=
  ofZMod ((toZMod z - toZMod z') * (toZMod (e.scalar G) - toZMod (e'.scalar G))⁻¹)

theorem sub_ne_zero_of_verdict {a : Announcement G k} {e e' : Challenge} {z z' : G.Scalar}
    (h : role.verdict S ⟨a, e, z⟩ = true) (h' : role.verdict S ⟨a, e', z'⟩ = true) (hne : e ≠ e') :
    toZMod (e.scalar G) - toZMod (e'.scalar G) ≠ 0 := by
  obtain ⟨he, -⟩ := verdict_iff.1 h
  obtain ⟨he', -⟩ := verdict_iff.1 h'
  rw [ne_eq, sub_eq_zero, toZMod_inj, Challenge.scalar_inj he he']
  exact hne

theorem holds_extract (hG : G.PrimeOrder) {a : Announcement G k} {e e' : Challenge}
    {z z' : G.Scalar} (h : role.verdict S ⟨a, e, z⟩ = true)
    (h' : role.verdict S ⟨a, e', z'⟩ = true) (hne : e ≠ e') :
    S.holds (extract e e' z z') = true := by
  have := hG.fact
  have hd := sub_ne_zero_of_verdict h h' hne
  obtain ⟨-, hS, ha, hc⟩ := verdict_iff.1 h
  obtain ⟨-, -, -, hc'⟩ := verdict_iff.1 h'
  rw [Statement.holds_iff]
  intro i hi
  obtain ⟨b, y, hb, hy⟩ := Statement.exists_logarithms hG hS i hi
  -- the announcement cancels, which leaves `b * (z - z') = y * (e - e')`
  have hm := Statement.mul_sub_eq_of_check hG ha hc hc' hi hb hy
  unfold extract
  rw [hb, hy, hG.exponentiate_antilog, hG.antilog_inj, toZMod_ofZMod, ← mul_assoc, hm, mul_assoc,
    mul_inv_cancel₀ hd, mul_one]

/-- Special soundness: two accepted transcripts of one announcement with different challenges
yield a witness, so without a witness no announcement is accepted under two challenges. -/
theorem special_soundness (hG : G.PrimeOrder) (role : SigmaRole G) (S : Statement G k) :
    (∀ a e e' z z', role.Accepts S ⟨a, e, z⟩ → role.Accepts S ⟨a, e', z'⟩ → e ≠ e' →
      toZMod (e.scalar G) - toZMod (e'.scalar G) ≠ 0 ∧ S.holds (extract e e' z z') = true) ∧
    ((∀ w, S.holds w = false) → ∀ a e e' z z',
      role.Accepts S ⟨a, e, z⟩ → role.Accepts S ⟨a, e', z'⟩ → e = e') := by
  constructor
  · intro a e e' z z' h h' hne
    rw [accepts_iff_verdict] at h h'
    exact ⟨sub_ne_zero_of_verdict h h' hne, holds_extract hG h h' hne⟩
  · intro hno a e e' z z' h h'
    rw [accepts_iff_verdict] at h h'
    by_contra hne
    have hw := holds_extract hG h h' hne
    rw [hno] at hw
    cases hw

/-- A role with challenges of one byte. -/
def order281 : SigmaRole Residues.order281.group :=
  ⟨⟨8, by decide, by decide, by decide⟩, none⟩

/-- The claim that the witness is seven. -/
def seven : Statement Residues.order281.group 1 :=
  .logarithm _ (exponentiateGenerator _ (scalar _ 7))

/-- A tuple with the exponents one, two and three, which no witness relates. -/
def unrelated : Statement Residues.order281.group 2 :=
  .diffieHellman _ (exponentiateGenerator _ (scalar _ 1)) (exponentiateGenerator _ (scalar _ 2))
    (exponentiateGenerator _ (scalar _ 3))

theorem special_soundness_order281 :
    seven.holds (extract ⟨[1]⟩ ⟨[2]⟩ (scalar _ 10) (scalar _ 17)) = true ∧
      ¬ order281.Accepts unrelated ⟨unrelated.commit (scalar _ 5), ⟨[1]⟩, scalar _ 9⟩ := by
  constructor
  · have hone : order281.Accepts seven ⟨seven.commit (scalar _ 3), ⟨[1]⟩, scalar _ 10⟩ :=
      accepts_iff_verdict.2 (by decide +kernel)
    have htwo : order281.Accepts seven ⟨seven.commit (scalar _ 3), ⟨[2]⟩, scalar _ 17⟩ :=
      accepts_iff_verdict.2 (by decide +kernel)
    exact ((special_soundness Residues.primeOrder_order281 order281 seven).1 _ _ _ _ _ hone htwo
      (by decide)).2
  · intro h
    have hzero : order281.Accepts unrelated
        ⟨unrelated.commit (scalar _ 5), ⟨[0]⟩, scalar _ 5⟩ :=
      accepts_iff_verdict.2 (by decide +kernel)
    have heq := (special_soundness Residues.primeOrder_order281 order281 unrelated).2
      (by decide +kernel) _ _ _ _ _ h hzero
    exact absurd heq (by decide)

end SigmaRole

end TwoParty
