/-
Zero-knowledge proofs of knowledge. The verifier commits to its challenge before the prover
announces, with a commitment whose trapdoor the prover holds:

1. prover to verifier: the commitment key;
2. verifier to prover: a commitment to the challenge;
3. prover to verifier: the announcement;
4. verifier to prover: the opening of the challenge;
5. prover to verifier: the response and the trapdoor.

The verifier accepts if the trapdoor belongs to the key and the transcript is accepted.
-/
import TwoParty.Commitment.Pedersen

namespace TwoParty

structure KnowledgeMessage where
  z : ResponseMessage
  trapdoor : Bytes
deriving DecidableEq, Repr

instance : Wire KnowledgeMessage :=
  .record (.and (.field "z") (.field "trapdoor")) (fun m => (m.z, m.trapdoor))
    fun (z, trapdoor) => ⟨z, trapdoor⟩

namespace SigmaRole

variable {G : CyclicGroup} {k : Nat}

/-- The session under which the challenge is committed to. -/
def challengeSession : SessionId := 0

/-- Proves knowledge of a witness to the other party. -/
def proveKnowledge (role : SigmaRole G) (S : Statement G k) (w : G.Scalar) : Attempt Unit := do
  let (state, a) ← role.announce S w
  let receiver ← Pedersen.Receiver.join role
  let (id, receiver) ← Pedersen.Receiver.receiveCommitment.runIn receiver
  if id = challengeSession then
    Attempt.send (AnnouncementMessage.encode a)
    let (x, receiver) ← (Pedersen.Receiver.receiveOpening id).runIn receiver
    let e ← Attempt.judge role.span
      (Challenge.ofScalarEncoding role.soundness (G.encodeScalar x))
    match role.respond state e with
    | .error cause => Attempt.fail (.cheating cause)
    | .ok z =>
      let message : KnowledgeMessage :=
        { z := .encode z, trapdoor := G.encodeScalar receiver.trapdoor }
      Attempt.send message
      Attempt.note ⟨.debug, "zkpok sent", [], role.span⟩
  else Attempt.accuse role.span (.sessionMismatch challengeSession id)

/-- Lets the other party prove knowledge of a witness, and tells whether it did. Messages that no
honest prover sends are accused; a wrong trapdoor or a wrong response only fail to convince. -/
def receiveKnowledge (role : SigmaRole G) (S : Statement G k) : Attempt Bool := do
  let committer ← Pedersen.Committer.join role
  let e ← Attempt.of role.challenge
  let x ← Attempt.require (Pedersen.Committer.valueOfBytes e.bytes)
  let ((), committer) ← (Pedersen.Committer.commit x challengeSession).runIn committer
  let a ← Attempt.judge role.span ((← Attempt.receive AnnouncementMessage).decode G k)
  let ((), committer) ← (Pedersen.Committer.decommit challengeSession).runIn committer
  let message ← Attempt.receive KnowledgeMessage
  let z ← Attempt.judge role.span (message.z.decode G)
  let trapdoor ← Attempt.judge role.span (G.decodeReceivedScalar "trapdoor" message.trapdoor)
  if committer.key.validatesTrapdoor trapdoor then
    Attempt.of (role.verify S ⟨a, e, z⟩)
  else
    Attempt.note ⟨.warn, Cheating.invalidTrapdoor.message, [], role.span⟩
    return false

end SigmaRole

end TwoParty
