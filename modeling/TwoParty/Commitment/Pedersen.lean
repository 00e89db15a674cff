/-
Pedersen commitments `g ^ r * h ^ x` to exponents `x`. The receiver chooses the key `h` as a power
of the generator and keeps the exponent, the trapdoor. A commitment says nothing about its value;
to open it in two ways is to know the trapdoor.
-/
import TwoParty.Commitment.Role
import TwoParty.Sigma.Interactive

namespace TwoParty

namespace Pedersen

/-! ## Messages -/

structure KeyMessage where
  h : Bytes
deriving DecidableEq, Repr

instance : Wire KeyMessage :=
  .record (.field "h") KeyMessage.h KeyMessage.mk

/-- A commitment of a session. -/
structure CommitmentMessage where
  id : SessionId
  c : Bytes
deriving DecidableEq, Repr

instance : Wire CommitmentMessage :=
  .record (.and (.field "id") (.field "c")) (fun m => (m.id, m.c)) fun (id, c) => ⟨id, c⟩

/-- The value and the randomness of a session. -/
structure OpeningMessage where
  id : SessionId
  x : Bytes
  r : Bytes
deriving DecidableEq, Repr

instance : Wire OpeningMessage :=
  .record (.and (.field "id") (.and (.field "x") (.field "r"))) (fun m => (m.id, m.x, m.r))
    fun (id, x, r) => ⟨id, x, r⟩

/-- The value of a session, before it is proven. -/
structure ValueMessage where
  id : SessionId
  x : Bytes
deriving DecidableEq, Repr

instance : Wire ValueMessage :=
  .record (.and (.field "id") (.field "x")) (fun m => (m.id, m.x)) fun (id, x) => ⟨id, x⟩

/-! ## Keys -/

/-- The two bases of a commitment. -/
structure Key (G : CyclicGroup) where
  g : G.Element
  h : G.Element

namespace Key

variable {G : CyclicGroup}

/-- The commitment to `x` with the randomness `r`. -/
def commitment (key : Key G) (x r : G.Scalar) : G.Element :=
  G.multiply (G.exponentiate key.g r) (G.exponentiate key.h x)

/-- The statement that `c` opens to `x`: the randomness is the logarithm of `c * h ^ (-x)`. -/
def openingStatement (key : Key G) (c : G.Element) (x : G.Scalar) : Statement G 1 :=
  Statement.logarithm G (G.multiply c (G.exponentiateInverse key.h x))

/-- Whether an exponent is the trapdoor of the key. -/
def validatesTrapdoor (key : Key G) (trapdoor : G.Scalar) : Bool :=
  G.exponentiate key.g trapdoor = key.h

end Key

/-! ## Committer -/

structure Committer (G : CyclicGroup) where
  role : SigmaRole G
  key : Key G
  sessions : Sessions (CommitmentRecord G.Scalar G.Scalar G.Element) := {}

namespace Committer

variable {G : CyclicGroup}

def join (role : SigmaRole G) : Attempt (Committer G) := do
  let message ← Attempt.receive KeyMessage
  let h ← Attempt.judge role.span (G.decodeMember "h" message.h)
  Attempt.note ⟨.debug, "pedersen commitment key received", [], role.span⟩
  return { role, key := ⟨G.generator, h⟩ }

def setup (G : CyclicGroup) (config : SigmaConfig) : Attempt (Committer G) := do
  join (← Attempt.configure (SigmaRole.new? G config))

def noteSession (message : String) (id : SessionId) : Action (Committer G) Unit := do
  let committer ← Action.state
  Action.of (Attempt.note ⟨.debug, message, [("session", toString id)], committer.role.span⟩)

/-- The record of an open session. -/
def openRecord (id : SessionId) :
    Action (Committer G) (CommitmentRecord G.Scalar G.Scalar G.Element) := do
  let committer ← Action.state
  match committer.sessions.find? id with
  | some record => return record
  | none => Action.of (Attempt.fail (.input (.unknownSession id)))

def commit (x : G.Scalar) (id : SessionId) : Action (Committer G) Unit := do
  let committer ← Action.state
  if (committer.sessions.find? id).isSome then
    Action.of (Attempt.fail (.input (.sessionInUse id)))
  else
    let r ← Action.of (Attempt.of G.randomScalar)
    let c := committer.key.commitment x r
    Action.of (Attempt.send ({ id, c := G.encode c } : CommitmentMessage))
    noteSession "pedersen commitment sent" id
    Action.put { committer with sessions := committer.sessions.insert id ⟨x, r, c⟩ }

def decommit (id : SessionId) : Action (Committer G) Unit := do
  let record ← openRecord id
  let message : OpeningMessage :=
    { id, x := G.encodeScalar record.value, r := G.encodeScalar record.randomness }
  Action.of (Attempt.send message)
  noteSession "pedersen decommitment sent" id

/-- Sends the value of a session and proves that the commitment opens to it. -/
def prove (id : SessionId) : Action (Committer G) Unit := do
  let record ← openRecord id
  let committer ← Action.state
  Action.of (Attempt.send ({ id, x := G.encodeScalar record.value } : ValueMessage))
  let statement := committer.key.openingStatement record.commitment record.value
  Action.of (committer.role.prove statement record.randomness)
  noteSession "committed value proven" id

/-- The exponent that bytes write as a big-endian integer, if it is below the order. -/
def valueOfBytes (bytes : Bytes) : Except InputError G.Scalar :=
  match G.exponentOfBytes? bytes with
  | some x => .ok x
  | none => .error .valueOutOfRange

instance : ProvingCommitterRole (Committer G) G.Scalar G.Scalar G.Element (Key G) where
  commit := commit
  decommit := decommit
  sampleValue _ := G.randomScalar
  valueOfBytes _ := valueOfBytes
  valueBytes _ := G.encodeScalar
  record? committer := committer.sessions.find?
  close id committer :=
    ⟨committer.sessions.find? id, { committer with sessions := committer.sessions.erase id }⟩
  record_close _ _ := rfl
  record?_close id other committer := committer.sessions.find?_erase id other
  key := Committer.key
  prove := prove

end Committer

/-! ## Receiver -/

/-- The receiving party, which knows the trapdoor. -/
structure Receiver (G : CyclicGroup) where
  role : SigmaRole G
  key : Key G
  trapdoor : G.Scalar
  commitments : Sessions G.Element := {}

namespace Receiver

variable {G : CyclicGroup}

/-- Chooses the trapdoor and sends the key. -/
def join (role : SigmaRole G) : Attempt (Receiver G) := do
  let trapdoor ← Attempt.of G.randomScalar
  let h := G.exponentiateGenerator trapdoor
  Attempt.send ({ h := G.encode h } : KeyMessage)
  Attempt.note ⟨.debug, "pedersen commitment key sent", [], role.span⟩
  return { role, key := ⟨G.generator, h⟩, trapdoor }

/-- Checks the parameters, chooses the trapdoor and sends the key. -/
def setup (G : CyclicGroup) (config : SigmaConfig) : Attempt (Receiver G) := do
  join (← Attempt.configure (SigmaRole.new? G config))

def noteSession (message : String) (id : SessionId) : Action (Receiver G) Unit := do
  let receiver ← Action.state
  Action.of (Attempt.note ⟨.debug, message, [("session", toString id)], receiver.role.span⟩)

/-- The value of a check of what was received, or the accusation. -/
def judge {α : Type} (check : Except Cheating α) : Action (Receiver G) α := do
  let receiver ← Action.state
  Action.of (Attempt.judge receiver.role.span check)

/-- The commitment of an open session. -/
def openCommitment (id : SessionId) : Action (Receiver G) G.Element := do
  let receiver ← Action.state
  match receiver.commitments.find? id with
  | some c => return c
  | none => Action.of (Attempt.fail (.input (.unknownSession id)))

/-- Checks that a message belongs to the session at hand. -/
def checkSession (expected received : SessionId) : Except Cheating Unit :=
  if expected = received then .ok () else .error (.sessionMismatch expected received)

def receiveCommitment : Action (Receiver G) SessionId := do
  let message ← Action.of (Attempt.receive CommitmentMessage)
  let c ← judge (G.decodeMember "c" message.c)
  let receiver ← Action.state
  if (receiver.commitments.find? message.id).isSome then
    judge (.error (.duplicateCommitment message.id))
  else
    Action.put { receiver with commitments := receiver.commitments.insert message.id c }
    noteSession "pedersen commitment received" message.id
    return message.id

/-- Receives the value and the randomness of a session and checks them against the commitment. -/
def receiveOpening (id : SessionId) : Action (Receiver G) G.Scalar := do
  let c ← openCommitment id
  let message ← Action.of (Attempt.receive OpeningMessage)
  judge (checkSession id message.id)
  let x ← judge (G.decodeReceivedScalar "x" message.x)
  let r ← judge (G.decodeReceivedScalar "r" message.r)
  let receiver ← Action.state
  if receiver.key.commitment x r = c then
    noteSession "pedersen decommitment accepted" id
    return x
  else judge (.error (.openingMismatch id))

/-- Receives the value of a session and lets the committer prove that the commitment opens to
it. -/
def verifyValue (id : SessionId) : Action (Receiver G) G.Scalar := do
  let c ← openCommitment id
  let message ← Action.of (Attempt.receive ValueMessage)
  judge (checkSession id message.id)
  let x ← judge (G.decodeReceivedScalar "x" message.x)
  let receiver ← Action.state
  if ← Action.of (receiver.role.receiveProof (receiver.key.openingStatement c x)) then
    noteSession "committed value verified" id
    return x
  else judge (.error .invalidProof)

instance : VerifyingReceiverRole (Receiver G) G.Scalar G.Element (Key G) where
  receiveCommitment := receiveCommitment
  receiveOpening := receiveOpening
  valueBytes _ := G.encodeScalar
  commitment? receiver := receiver.commitments.find?
  close id receiver :=
    ⟨receiver.commitments.find? id,
      { receiver with commitments := receiver.commitments.erase id }⟩
  record_close _ _ := rfl
  commitment?_close id other receiver := receiver.commitments.find?_erase id other
  key := Receiver.key
  verifyValue := verifyValue

end Receiver

end Pedersen

end TwoParty
