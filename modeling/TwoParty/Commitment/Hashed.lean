/-
Hash commitments: the digest of the session, random bytes and the value. Every part but the
session is preceded by its length, so that different parts never run into the same text.
-/
import TwoParty.Commitment.Role
import TwoParty.Hash.Shake

namespace TwoParty

namespace Hashed

/-! ## Digests -/

/-- Bytes preceded by their length in eight bytes, the most significant first. -/
def withLength (bytes : Bytes) : Bytes :=
  Bytes.toBigEndian 8 bytes.length ++ bytes

/-- The text that is hashed to commit to `x` with the randomness `r`. -/
def preimage (id : SessionId) (r x : Bytes) : Bytes :=
  withLength (Bytes.ofText "hash-commitment") ++ Bytes.toBigEndian 8 id.toNat ++ withLength r ++
    withLength x

/-- The commitment to `x` with the randomness `r`. -/
def digest (hash : Shake) (id : SessionId) (r x : Bytes) : Bytes :=
  hash.output (preimage id r x) 32

/-! ## Messages -/

/-- A commitment of a session. -/
structure CommitmentMessage where
  id : SessionId
  c : Bytes
deriving DecidableEq, Repr

instance : Wire CommitmentMessage :=
  .record (.and (.field "id") (.field "c")) (fun m => (m.id, m.c)) fun (id, c) => ⟨id, c⟩

/-- The randomness and the value of a session. -/
structure OpeningMessage where
  id : SessionId
  r : Bytes
  x : Bytes
deriving DecidableEq, Repr

instance : Wire OpeningMessage :=
  .record (.and (.field "id") (.and (.field "r") (.field "x"))) (fun m => (m.id, m.r, m.x))
    fun (id, r, x) => ⟨id, r, x⟩

/-! ## Committer -/

structure Committer where
  hash : Shake
  span : Option String := none
  sessions : Sessions (CommitmentRecord Bytes Bytes Bytes) := {}

namespace Committer

def noteSession (message : String) (id : SessionId) : Action Committer Unit := do
  let committer ← Action.state
  Action.of (Attempt.note ⟨.debug, message, [("session", toString id)], committer.span⟩)

def commit (x : Bytes) (id : SessionId) : Action Committer Unit := do
  let committer ← Action.state
  if (committer.sessions.find? id).isSome then
    Action.of (Attempt.fail (.input (.sessionInUse id)))
  else
    let r ← Action.of (Attempt.of (Program.bytes 32))
    let c := digest committer.hash id r x
    Action.of (Attempt.send ({ id, c } : CommitmentMessage))
    noteSession "hash commitment sent" id
    Action.put { committer with sessions := committer.sessions.insert id ⟨x, r, c⟩ }

def decommit (id : SessionId) : Action Committer Unit := do
  let committer ← Action.state
  match committer.sessions.find? id with
  | some record =>
    let message : OpeningMessage := { id, r := record.randomness, x := record.value }
    Action.of (Attempt.send message)
    noteSession "hash decommitment sent" id
  | none => Action.of (Attempt.fail (.input (.unknownSession id)))

instance : CommitterRole Committer Bytes Bytes Bytes Unit where
  commit := commit
  decommit := decommit
  sampleValue _ := Program.bytes 32
  valueOfBytes _ := .ok
  valueBytes _ := id
  record? committer := committer.sessions.find?
  close id committer :=
    ⟨committer.sessions.find? id, { committer with sessions := committer.sessions.erase id }⟩
  record_close _ _ := rfl
  record?_close id other committer := committer.sessions.find?_erase id other
  key _ := ()

end Committer

/-! ## Receiver -/

structure Receiver where
  hash : Shake
  span : Option String := none
  commitments : Sessions Bytes := {}

namespace Receiver

def noteSession (message : String) (id : SessionId) : Action Receiver Unit := do
  let receiver ← Action.state
  Action.of (Attempt.note ⟨.debug, message, [("session", toString id)], receiver.span⟩)

def accuse {α : Type} (cause : Cheating) : Action Receiver α := do
  let receiver ← Action.state
  Action.of (Attempt.accuse receiver.span cause)

def receiveCommitment : Action Receiver SessionId := do
  let message ← Action.of (Attempt.receive CommitmentMessage)
  let receiver ← Action.state
  if (receiver.commitments.find? message.id).isSome then
    accuse (.duplicateCommitment message.id)
  else
    Action.put
      { receiver with commitments := receiver.commitments.insert message.id message.c }
    noteSession "hash commitment received" message.id
    return message.id

/-- Receives the randomness and the value of a session and checks them against the commitment. -/
def receiveOpening (id : SessionId) : Action Receiver Bytes := do
  let receiver ← Action.state
  match receiver.commitments.find? id with
  | some c =>
    let message ← Action.of (Attempt.receive OpeningMessage)
    if message.id = id then
      if digest receiver.hash id message.r message.x = c then
        noteSession "hash decommitment accepted" id
        return message.x
      else accuse (.openingMismatch id)
    else accuse (.sessionMismatch id message.id)
  | none => Action.of (Attempt.fail (.input (.unknownSession id)))

instance : ReceiverRole Receiver Bytes Bytes Unit where
  receiveCommitment := receiveCommitment
  receiveOpening := receiveOpening
  valueBytes _ := id
  commitment? receiver := receiver.commitments.find?
  close id receiver :=
    ⟨receiver.commitments.find? id,
      { receiver with commitments := receiver.commitments.erase id }⟩
  record_close _ _ := rfl
  commitment?_close id other receiver := receiver.commitments.find?_erase id other
  key _ := ()

end Receiver

end Hashed

end TwoParty
