/-
The value of a Pedersen commitment is proven instead of opened: what is left of the commitment when
the value is taken out has the randomness as its logarithm, so the statement of the proof is true
and the receiver is convinced of the value.
-/
import TwoParty.Proofs.Commitment.Pedersen
import TwoParty.Proofs.Group.Powers
import TwoParty.Proofs.Sigma.Interactive

namespace TwoParty.Pedersen

open CyclicGroup

variable {G : CyclicGroup}

/-! ## The statement -/

namespace Key

variable (hG : G.PrimeOrder) {key : Key G} (hh : G.isMember key.h = true)
include hG hh

theorem isValid_openingStatement {c : G.Element} (hc : G.isMember c = true) (x : G.Scalar) :
    (key.openingStatement c x).isValid = true := by
  rw [Statement.isValid_iff]
  intro i hi
  obtain rfl : i = 0 := by omega
  exact ⟨hG.isMember_generator, hG.isMember_multiply hc (hG.isMember_exponentiate hh _)⟩

omit hG in
/-- The randomness of a commitment is the witness that it opens to its value. -/
theorem holds_openingStatement (hG : G.PowerLaws) (hg : key.g = G.generator) (x r : G.Scalar) :
    (key.openingStatement (key.commitment x r) x).holds r = true := by
  unfold openingStatement commitment
  rw [Statement.holds_logarithm_iff, hg,
    hG.cancel x (hG.isMember_exponentiate r hG.isMember_generator) hh]
  rfl

end Key

/-! ## Operations as attempts -/

theorem Committer.runIn_prove (committer : Committer G) (id : SessionId)
    {record : CommitmentRecord G.Scalar G.Scalar G.Element}
    (h : committer.sessions.find? id = some record) :
    (Committer.prove id).runIn committer = do
      Attempt.send (ValueMessage.mk id (G.encodeScalar record.value))
      committer.role.prove (committer.key.openingStatement record.commitment record.value)
        record.randomness
      Attempt.note ⟨.debug, "committed value proven", [("session", toString id)],
        committer.role.span⟩
      return ((), committer) := by
  simp [prove, openRecord, h]

theorem Receiver.runIn_verifyValue (receiver : Receiver G) (id : SessionId) {c : G.Element}
    (h : receiver.commitments.find? id = some c) :
    (Receiver.verifyValue id).runIn receiver = do
      let message ← Attempt.receive ValueMessage
      Attempt.judge receiver.role.span (checkSession id message.id)
      let x ← Attempt.judge receiver.role.span (G.decodeReceivedScalar "x" message.x)
      if ← receiver.role.receiveProof (receiver.key.openingStatement c x) then
        Attempt.note ⟨.debug, "committed value verified", [("session", toString id)],
          receiver.role.span⟩
        return (x, receiver)
      else
        return (← Attempt.judge receiver.role.span (.error .invalidProof), receiver) := by
  simp [verifyValue, openCommitment, h]

/-! ## The phase -/

/-- A committed value is proven: the receiver is convinced of it, whatever either party draws. -/
theorem prove_meets (hG : G.PrimeOrder) {committer : Committer G} {receiver : Receiver G}
    {id : SessionId} {x r : G.Scalar} {c : G.Element} (hkey : receiver.key = committer.key)
    (hrole : committer.role.soundness = receiver.role.soundness)
    (hg : committer.key.g = G.generator) (hh : G.isMember committer.key.h = true)
    (hc : committer.sessions.find? id = some ⟨x, r, c⟩)
    (hr : receiver.commitments.find? id = some c) (hopen : committer.key.commitment x r = c)
    {s s' : Source} {nonce : G.Scalar} (hnonce : G.nextScalar s = some (nonce, s')) (t : Source) :
    ∃ passages, ((Committer.prove id).runIn committer).Meets
      ((Receiver.verifyValue id).runIn receiver) s t passages (((), committer), s')
      ((x, receiver), t.advance receiver.role.soundness.challengeLength) := by
  have hgmember : G.isMember committer.key.g = true := by rw [hg]; exact hG.isMember_generator
  have hcmember : G.isMember c = true := by
    rw [← hopen]; exact Key.isMember_commitment hG hgmember hh x r
  have hvalid := Key.isValid_openingStatement hG hh hcmember x
  have hholds := Key.holds_openingStatement hh hG.powerLaws hg x r
  rw [hopen] at hholds
  have hproof := SigmaRole.proof_meets hG (by norm_num) hrole hvalid hholds hnonce (t := t)
    (e := ⟨t.peek receiver.role.soundness.challengeLength⟩) rfl
  have hfits : Wire.Fits (ValueMessage.mk id (G.encodeScalar x)) := ⟨trivial, hG.fits_scalar x⟩
  have hid : Receiver.checkSession id id = .ok () := if_pos rfl
  apply Exists.intro
  rw [Committer.runIn_prove _ _ hc, Receiver.runIn_verifyValue _ _ hr, hkey]
  apply Attempt.Meets.send_bind hfits
  rw [hid, decodeReceivedScalar_encodeScalar, Attempt.judge_ok, Attempt.judge_ok, pure_bind,
    pure_bind]
  apply hproof.bind_quiet
  simp only [if_true]
  refine (Attempt.Yields.note _ s').left ?_
  refine (Attempt.Yields.note _ _).right ?_
  exact Attempt.Meets.pure _ _ _ _

end TwoParty.Pedersen
