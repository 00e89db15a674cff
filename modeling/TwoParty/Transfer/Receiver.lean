/-
The receiver of oblivious transfers. For a choice `σ` it requests with
`(g', h') = (g_σ ^ r, h_σ ^ r)` and unmasks the answer `(u_σ, c_σ)` with the key of `u_σ ^ r`.
-/
import TwoParty.Transfer.Basic

namespace TwoParty

namespace Transfer

/-! ## Preparation -/

/-- The receiver's bases with the exponent that witnesses their statement. -/
structure ReceiverSecrets (G : CyclicGroup) where
  bases : Bases G
  alpha : G.Scalar

variable {G : CyclicGroup}

/-- Chooses the bases. As `y` is not zero, `g1` is not the identity. -/
def Core.chooseBases (core : Core) : Program (ReceiverSecrets G × SetupMessage) := do
  let y ← G.randomNonzeroScalar
  let alpha ← G.randomScalar
  let g1 := G.exponentiateGenerator y
  let h0 := G.exponentiateGenerator alpha
  let h1 := G.exponentiate g1 (G.add alpha G.one)
  Program.record ⟨.debug, "ot receiver preprocessing computed", [], core.span⟩
  return (⟨⟨g1, h0, h1⟩, alpha⟩, ⟨G.encode g1, G.encode h0, G.encode h1⟩)

/-! ## One transfer -/

/-- A transfer that was requested, with the parameters in force at the request. -/
structure Pending (G : CyclicGroup) where
  core : Core
  choice : Bool
  r : G.Scalar

/-- The chosen half of an answer that was checked. -/
structure Chosen (G : CyclicGroup) where
  core : Core
  r : G.Scalar
  u : G.Element
  c : Bytes

def Core.request (core : Core) (bases : Bases G) (choice : Bool) :
    Program (Pending G × RequestMessage) := do
  let r ← G.randomNonzeroScalar
  let (g, h) := bases.choose choice
  return (⟨core, choice, r⟩, ⟨G.encode (G.exponentiate g r), G.encode (G.exponentiate h r)⟩)

/-- Checks both halves of an answer before the chosen one is used. -/
def Pending.choose (pending : Pending G) (answer : AnswerMessage) :
    Except Cheating (Chosen G) := do
  let u0 ← G.decodeMember "u0" answer.u0
  let u1 ← G.decodeMember "u1" answer.u1
  if answer.c0.length ≠ answer.c1.length then
    .error (.payloadLengthMismatch answer.c0.length answer.c1.length)
  else if answer.c0.length > pending.core.maxPayload then
    .error (.payloadTooLong pending.core.maxPayload)
  else if pending.choice then .ok ⟨pending.core, pending.r, u1, answer.c1⟩
  else .ok ⟨pending.core, pending.r, u0, answer.c0⟩

def Chosen.unmask (chosen : Chosen G) : Attempt Bytes := do
  let output ← Attempt.require
    (mask chosen.core.kdf (G.exponentiate chosen.u chosen.r) chosen.c)
  Attempt.note
    ⟨.debug, "ot output derived", [("len", toString output.length)], chosen.core.span⟩
  return output

/-- The string that an answer gives to a requested transfer. -/
def Pending.finish (pending : Pending G) (answer : AnswerMessage) : Attempt Bytes := do
  let chosen ← Attempt.judge pending.core.span (pending.choose answer)
  chosen.unmask

/-! ## Over a channel -/

/-- A receiver that has convinced its sender. -/
structure Receiver (G : CyclicGroup) where
  core : Core
  bases : Bases G

namespace Receiver

/-- Checks the parameters, sends the bases and proves their statement. -/
def setup (G : CyclicGroup) (kdf : KeyDerivation) (config : Config) : Attempt (Receiver G) := do
  let role ← Attempt.configure (SigmaRole.new? G config.sigma)
  let core ← Attempt.configure (Core.new? kdf config)
  let (secrets, message) ← Attempt.of core.chooseBases
  Attempt.send message
  role.proveKnowledge secrets.bases.statement secrets.alpha
  Attempt.note ⟨.debug, "ot receiver preprocessing done", [], core.span⟩
  return ⟨core, secrets.bases⟩

def transfer (receiver : Receiver G) (choice : Bool) : Attempt Bytes := do
  let (pending, request) ← Attempt.of (receiver.core.request receiver.bases choice)
  Attempt.send request
  let answer ← Attempt.receive AnswerMessage
  pending.finish answer

end Receiver

end Transfer

end TwoParty
