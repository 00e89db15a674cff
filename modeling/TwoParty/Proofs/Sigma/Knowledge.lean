/-
Proofs of knowledge between parties that keep to the protocol. The challenge takes the way from raw
bytes to an exponent, to the encoding of that exponent in the opening, and back to bytes; whatever
was drawn, both parties work with the same challenge, no check fails, and the proof convinces.
-/
import TwoParty.Proofs.Commitment.Pedersen

namespace TwoParty

open CyclicGroup Pedersen

variable {G : CyclicGroup} {k : Nat}

namespace SigmaRole

/-- The frames of a proof of knowledge: the key, the commitment to the challenge, the
announcement, the opening of the challenge, and the response with the trapdoor. -/
def knowledgePassages (S : Statement G k) (w r trapdoor opener : G.Scalar) (e : Challenge) :
    List Passage :=
  let key : Key G := keyOf trapdoor
  let x := e.scalar G
  [(.first, Wire.write (KeyMessage.mk (G.encode key.h))),
    (.second, Wire.write
      (CommitmentMessage.mk challengeSession (G.encode (key.commitment x opener)))),
    (.first, Wire.write (AnnouncementMessage.encode (S.commit r))),
    (.second, Wire.write
      (OpeningMessage.mk challengeSession (G.encodeScalar x) (G.encodeScalar opener))),
    (.first, Wire.write
      (KnowledgeMessage.mk (.encode (G.add r (G.mul x w))) (G.encodeScalar trapdoor)))]

variable {prover verifier : SigmaRole G} {S : Statement G k} {w r trapdoor opener : G.Scalar}
  {e : Challenge} {s s₁ s₂ t t' : Source}

theorem knowledge_meets (hG : G.PrimeOrder) (hk : k < 2 ^ 64)
    (hrole : prover.soundness = verifier.soundness) (hS : S.isValid = true) (hw : S.holds w = true)
    (hr : G.nextScalar s = some (r, s₁)) (htrapdoor : G.nextScalar s₁ = some (trapdoor, s₂))
    (hdraw : e.bytes = t.peek verifier.soundness.challengeLength)
    (hopener : G.nextScalar (t.advance verifier.soundness.challengeLength) = some (opener, t')) :
    (prover.proveKnowledge S w).Meets (verifier.receiveKnowledge S) s t
      (knowledgePassages S w r trapdoor opener e) ((), s₂) (true, t') := by
  have he : e.bytes.length = verifier.soundness.challengeLength := by
    rw [hdraw]; exact Source.length_peek _ _
  have he' : e.bytes.length = prover.soundness.challengeLength := by rw [hrole]; exact he
  have ha := Statement.isValid_commit hG hS r
  have hm := isMember_keyOf hG trapdoor
  unfold proveKnowledge receiveKnowledge
  refine (yields_announce hw hr).left ?_
  refine (join_meets hG prover verifier htrapdoor).cons ?_
  -- the challenge is drawn, and committed to as an exponent
  have hrandom := Challenge.yields_random verifier.soundness t
  rw [← hdraw] at hrandom
  refine (Attempt.Yields.of hrandom).right ?_
  simp only [Challenge.valueOfBytes_eq he, Attempt.require_ok, pure_bind]
  refine (commit_meets hG (.joined prover trapdoor) (.joined verifier trapdoor) challengeSession
    (e.scalar G) hG.isMember_generator hm rfl rfl hopener).cons ?_
  simp only [if_pos]
  refine Attempt.Meets.send_bind (AnnouncementMessage.fits_encode hG hk ha) ?_
  simp only [AnnouncementMessage.decode_encode hG ha, Attempt.judge_ok, pure_bind]
  -- the opening gives the challenge back, byte for byte
  refine (decommit_opened_meets hG (.joined prover trapdoor) (.joined verifier trapdoor) rfl
    challengeSession (e.scalar G) opener s₂ t').cons ?_
  simp only [Challenge.ofScalarEncoding_encodeScalar he', Attempt.judge_ok, pure_bind,
    respond_eq he']
  have hfits : Wire.Fits (KnowledgeMessage.mk (.encode (G.add r (G.mul (e.scalar G) w)))
      (G.encodeScalar trapdoor)) := ⟨hG.fits_scalar _, hG.fits_scalar _⟩
  have hz : ResponseMessage.decode G (.encode (G.add r (G.mul (e.scalar G) w))) =
      .ok (G.add r (G.mul (e.scalar G) w)) := decodeReceivedScalar_encodeScalar _ _
  have hkey : ((Committer.joined verifier trapdoor).opened challengeSession (e.scalar G)
      opener).key.validatesTrapdoor trapdoor = true := validatesTrapdoor_keyOf trapdoor
  refine Attempt.Meets.send_bind hfits ?_
  simp only [Receiver.opened, Receiver.joined, hz, decodeReceivedScalar_encodeScalar,
    Attempt.judge_ok, pure_bind, hkey, if_true]
  have hverdict := yields_verify verifier S ⟨S.commit r, e, G.add r (G.mul (e.scalar G) w)⟩ t'
  rw [verdict_respond hG hS hw he] at hverdict
  exact (Attempt.Yields.note _ s₂).meets hverdict

/-- Completeness: parties that keep to the protocol, with one soundness parameter and a witness of
a valid statement, end with a convinced verifier, whatever is drawn. They exchange five frames and
leave none. -/
theorem knowledge_complete (hG : G.PrimeOrder) (hk : k < 2 ^ 64) (prover verifier : SigmaRole G)
    (hrole : prover.soundness = verifier.soundness) (S : Statement G k) (hS : S.isValid = true)
    (w : G.Scalar) (hw : S.holds w = true) {s s₁ s₂ t t' : Source} {r trapdoor opener : G.Scalar}
    {e : Challenge} (hr : G.nextScalar s = some (r, s₁))
    (htrapdoor : G.nextScalar s₁ = some (trapdoor, s₂))
    (he : e.bytes = t.peek verifier.soundness.challengeLength)
    (hopener : G.nextScalar (t.advance verifier.soundness.challengeLength) = some (opener, t')) :
    ∃ o, Program.pair (prover.proveKnowledge S w).run (verifier.receiveKnowledge S).run
        (.fresh s) (.fresh t) = some o ∧
      o.left.result = .ok () ∧ o.right.result = .ok true ∧
      o.left.traffic =
        (knowledgePassages S w r trapdoor opener e).map (Passage.activity .first) ∧
      o.right.traffic =
        (knowledgePassages S w r trapdoor opener e).map (Passage.activity .second) ∧
      o.left.endpoint.inbox = [] ∧ o.right.endpoint.inbox = [] := by
  obtain ⟨o, hrun, hl, hr⟩ := knowledge_meets hG hk hrole hS hw hr htrapdoor he hopener
  refine ⟨o, hrun, hl.result, hr.result, hl.traffic, hr.traffic, ?_, ?_⟩
  · rw [hl.endpoint]; rfl
  · rw [hr.endpoint]; rfl

/-- A source of zero bytes: every exponent and every challenge drawn from it is zero. -/
def zeros : Source := ⟨fun _ => 0, 0, 0⟩

theorem knowledge_complete_zeros :
    ∃ o, Program.pair (order281.proveKnowledge seven (scalar _ 7)).run
        (order281.receiveKnowledge seven).run (.fresh zeros) (.fresh zeros) = some o ∧
      o.left.result = .ok () ∧ o.right.result = .ok true ∧
      o.left.traffic =
        (knowledgePassages seven (scalar _ 7) (zero _) (zero _) (zero _) ⟨[0]⟩).map
          (Passage.activity .first) ∧
      o.right.traffic =
        (knowledgePassages seven (scalar _ 7) (zero _) (zero _) (zero _) ⟨[0]⟩).map
          (Passage.activity .second) ∧
      o.left.endpoint.inbox = [] ∧ o.right.endpoint.inbox = [] :=
  knowledge_complete Residues.primeOrder_order281 (by decide) order281 order281 rfl seven
    (by decide +kernel) _ (by decide +kernel) rfl rfl rfl rfl

end SigmaRole

end TwoParty
