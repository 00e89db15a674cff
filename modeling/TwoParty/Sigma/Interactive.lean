/-
The three moves over a channel. The prover's secrets are safe against a verifier that picks its
challenge at random.
-/
import TwoParty.Sigma.Transcript

namespace TwoParty

namespace SigmaRole

variable {G : CyclicGroup} {k : Nat}

def prove (role : SigmaRole G) (S : Statement G k) (w : G.Scalar) : Attempt Unit := do
  let (state, a) ← role.announce S w
  Attempt.send (AnnouncementMessage.encode a)
  let e ← Attempt.receive Challenge
  match role.respond state e with
  | .error cause =>
    let error := ProtocolError.cheating cause
    Attempt.note ⟨.warn, "sigma prover aborted", [("err", error.message)], role.span⟩
    Attempt.fail error
  | .ok z =>
    Attempt.send (ResponseMessage.encode z)
    Attempt.note ⟨.debug, "sigma proof sent", [], role.span⟩

/-- Lets the other party prove a statement, and tells whether it did. Messages that no honest
prover sends are accused. -/
def receiveProof (role : SigmaRole G) (S : Statement G k) : Attempt Bool := do
  let a ← Attempt.judge role.span ((← Attempt.receive AnnouncementMessage).decode G k)
  let e ← Attempt.of role.challenge
  Attempt.send e
  let z ← Attempt.judge role.span ((← Attempt.receive ResponseMessage).decode G)
  Attempt.of (role.verify S ⟨a, e, z⟩)

end SigmaRole

end TwoParty
