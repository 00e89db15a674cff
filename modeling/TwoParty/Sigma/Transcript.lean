/-
The three moves of a proof that a witness satisfies a statement: the prover announces `a`, the
verifier challenges with `e`, the prover responds with `z`, and the verifier checks
`base ^ z = a * image ^ e` for every equation. Whoever knows the challenge beforehand makes
accepting transcripts without a witness.
-/
import TwoParty.Group.Sampling
import TwoParty.Sigma.Challenge
import TwoParty.Sigma.Statement

namespace TwoParty

/-! ## Roles -/

/-- The parameters from which provers and verifiers are built. -/
structure SigmaConfig where
  soundnessBits : UInt32 := 80
  span : Option String := none

/-- What provers, verifiers and simulators share: checked parameters. -/
structure SigmaRole (G : CyclicGroup) where
  soundness : Soundness G.order
  span : Option String

/-- The prover's secrets between the announcement and the response. -/
structure ProverState (G : CyclicGroup) where
  randomness : G.Scalar
  witness : G.Scalar

structure Transcript (G : CyclicGroup) (k : Nat) where
  a : Announcement G k
  e : Challenge
  z : G.Scalar

namespace SigmaRole

variable {G : CyclicGroup} {k : Nat}

/-- Checks the parameters. -/
def new? (G : CyclicGroup) (config : SigmaConfig) : Except SetupError (SigmaRole G) := do
  let soundness ← Soundness.new? G.order config.soundnessBits
  return ⟨soundness, config.span⟩

/-! ## Prover -/

/-- Announces the proof of a statement; a witness that does not satisfy it is refused before
anything is drawn. -/
def announce (role : SigmaRole G) (S : Statement G k) (w : G.Scalar) :
    Attempt (ProverState G × Announcement G k) := do
  if S.holds w then
    let r ← Attempt.of G.randomScalar
    Attempt.note ⟨.trace, "sigma first message computed", [], role.span⟩
    return (⟨r, w⟩, S.commit r)
  else Attempt.fail (.input .witnessMismatch)

/-- The response `z = r + e * w`. -/
def respond (role : SigmaRole G) (state : ProverState G) (e : Challenge) :
    Except Cheating G.Scalar := do
  e.check role.soundness
  return G.add state.randomness (G.mul (e.scalar G) state.witness)

/-! ## Verifier -/

def challenge (role : SigmaRole G) : Program Challenge :=
  Challenge.random role.soundness

/-- Whether a transcript proves a statement. -/
def verify (role : SigmaRole G) (S : Statement G k) (t : Transcript G k) : Program Bool := do
  let refuse (reason : String) : Program Bool := do
    Program.record ⟨.warn, reason, [], role.span⟩
    return false
  if (t.e.check role.soundness).isOk then
    if S.isValid then
      if t.a.isValid then
        let accepted := S.check t.a (t.e.scalar G) t.z
        Program.record
          ⟨.debug, "sigma verification", [("accepted", toString accepted)], role.span⟩
        return accepted
      else refuse "first message contains non-members"
    else refuse "statement contains non-members"
  else refuse "challenge of invalid length"

/-! ## Simulator -/

/-- An accepting transcript made without a witness, for a given or a random challenge. -/
def simulate (role : SigmaRole G) (S : Statement G k) (e? : Option Challenge) :
    Attempt (Transcript G k) := do
  let e ← match e? with
    | none => Attempt.of role.challenge
    | some e =>
      match e.check role.soundness with
      | .ok () => pure e
      | .error cause =>
        Attempt.note ⟨.warn, "simulator received an invalid challenge",
          [("err", cause.message)], role.span⟩
        Attempt.fail (.cheating cause)
  let z ← Attempt.of G.randomScalar
  return ⟨S.backSolve (e.scalar G) z, e, z⟩

end SigmaRole

end TwoParty
