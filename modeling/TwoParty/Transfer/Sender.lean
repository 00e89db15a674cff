/-
The sender of oblivious transfers. It masks the string `x_i` with the key of `g' ^ s * h' ^ t` and
sends along `g_i ^ s * h_i ^ t`, with fresh `s` and `t` for each of the two. Only where
`(g', h')` is the same power of `(g_i, h_i)` does the one determine the other.
-/
import TwoParty.Transfer.Basic

namespace TwoParty

namespace Transfer

variable {G : CyclicGroup}

/-! ## Computations -/

/-- Reads the receiver's bases: members of the group, and `g1` not the identity. -/
def Bases.ofMessage (message : SetupMessage) : Except Cheating (Bases G) := do
  let g1 ← G.decodeNontrivial "g1" message.g1
  let h0 ← G.decodeMember "h0" message.h0
  let h1 ← G.decodeMember "h1" message.h1
  return ⟨g1, h0, h1⟩

/-- Checks the strings to be sent: of equal and admitted length. -/
def Core.checkInputs (core : Core) (x0 x1 : Bytes) : Except InputError Unit :=
  if x0.length ≠ x1.length then .error (.inputLengthMismatch x0.length x1.length)
  else if x0.length > core.maxPayload then .error (.inputTooLong core.maxPayload)
  else .ok ()

/-- Masks one string for the request `(g', h')`, given the bases `(g, h)` of the string. -/
def Core.maskFor (core : Core) (request bases : G.Element × G.Element) (x : Bytes) :
    Attempt (Bytes × Bytes) := do
  let s ← Attempt.of G.randomScalar
  let t ← Attempt.of G.randomScalar
  let u := randomize bases.1 bases.2 s t
  let v := randomize request.1 request.2 s t
  let c ← Attempt.require (mask core.kdf v x)
  return (G.encode u, c)

/-- Reads a request: members of the group, and `g'` not the identity, since with the identity both
strings would be unmasked. -/
def readRequest (message : RequestMessage) : Except Cheating (G.Element × G.Element) := do
  let g ← G.decodeNontrivial "g'" message.g
  let h ← G.decodeMember "h'" message.h
  return (g, h)

def Core.answer (core : Core) (bases : Bases G) (request : RequestMessage) (x0 x1 : Bytes) :
    Attempt AnswerMessage := do
  Attempt.require (core.checkInputs x0 x1)
  let request ← Attempt.judge core.span (readRequest request)
  let (u0, c0) ← core.maskFor request (bases.choose false) x0
  let (u1, c1) ← core.maskFor request (bases.choose true) x1
  Attempt.note ⟨.debug, "ot sender tuple computed", [("len", toString x0.length)], core.span⟩
  return ⟨u0, c0, u1, c1⟩

/-! ## Over a channel -/

/-- A sender that its receiver has convinced. -/
structure Sender (G : CyclicGroup) where
  core : Core
  bases : Bases G

namespace Sender

/-- Checks the parameters, receives the bases and lets the receiver prove their statement. -/
def setup (G : CyclicGroup) (kdf : KeyDerivation) (config : Config) : Attempt (Sender G) := do
  let role ← Attempt.configure (SigmaRole.new? G config.sigma)
  let core ← Attempt.configure (Core.new? kdf config)
  let message ← Attempt.receive SetupMessage
  let bases : Bases G ← Attempt.judge core.span (Bases.ofMessage message)
  if ← role.receiveKnowledge bases.statement then
    Attempt.note ⟨.debug, "ot sender preprocessing done", [], core.span⟩
    return ⟨core, bases⟩
  else Attempt.accuse core.span .invalidProof

/-- Transfers one of two strings, as the receiver chooses. -/
def transfer (sender : Sender G) (x0 x1 : Bytes) : Attempt Unit := do
  Attempt.require (sender.core.checkInputs x0 x1)
  let request ← Attempt.receive RequestMessage
  let answer ← sender.core.answer sender.bases request x0 x1
  Attempt.send answer

end Sender

end Transfer

end TwoParty
