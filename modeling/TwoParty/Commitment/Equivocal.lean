/-
Equivocal commitments: the commitments of another scheme, opened by a proof instead of by their
randomness. Whoever can fake the proof can open to a value chosen afterwards; the honest roles are
those of the other scheme.
-/
import TwoParty.Commitment.Role

namespace TwoParty

/-- A role whose commitments are opened by proofs. -/
structure Equivocal (ρ : Type) where
  inner : ρ

namespace Equivocal

variable {ρ Value Randomness Commitment Key α : Type}

/-- An action of the inner role. -/
def lift (action : Action ρ α) : Action (Equivocal ρ) α :=
  Action.within inner (fun _ role => ⟨role⟩) action

instance [ProvingCommitterRole ρ Value Randomness Commitment Key] :
    CommitterRole (Equivocal ρ) Value Randomness Commitment Key where
  commit value id := lift (CommitterRole.commit value id)
  decommit id := lift (ProvingCommitterRole.prove id)
  sampleValue role := CommitterRole.sampleValue role.inner
  valueOfBytes role := CommitterRole.valueOfBytes role.inner
  valueBytes role := CommitterRole.valueBytes role.inner
  record? role := CommitterRole.record? role.inner
  close id role := (CommitterRole.close id role.inner).map mk
  record_close id role := CommitterRole.record_close id role.inner
  record?_close id other role := CommitterRole.record?_close id other role.inner
  key role := CommitterRole.key role.inner

instance [VerifyingReceiverRole ρ Value Commitment Key] :
    ReceiverRole (Equivocal ρ) Value Commitment Key where
  receiveCommitment := lift ReceiverRole.receiveCommitment
  receiveOpening id := lift (VerifyingReceiverRole.verifyValue id)
  valueBytes role := ReceiverRole.valueBytes role.inner
  commitment? role := ReceiverRole.commitment? role.inner
  close id role := (ReceiverRole.close id role.inner).map mk
  record_close id role := ReceiverRole.record_close id role.inner
  commitment?_close id other role := ReceiverRole.commitment?_close id other role.inner
  key role := ReceiverRole.key role.inner

end Equivocal

end TwoParty
