/-
Why an operation fails, sorted by who is to blame: the caller, through parameters
(`SetupError`) or arguments (`InputError`), the other party (`Cheating`), or the transport
(`ChannelError`).
-/
namespace TwoParty

/-- Parameters from which no role can be built. -/
inductive SetupError where
  /-- Two to the number of challenge bits is not below the group order. -/
  | soundnessTooLarge (bits : Nat)
  /-- The number of challenge bits is zero or not a multiple of eight. -/
  | soundnessNotAligned (bits : Nat)
  /-- The payload limit is beyond what the key derivation promises. -/
  | payloadLimitTooLarge (requested supported : Nat)
  | invalidGroup (reason : String)
deriving DecidableEq, Repr

/-- A check that only a deviating party can fail. -/
inductive Cheating where
  /-- The element of this name is not in the group. -/
  | notMember (name : String)
  | identityElement (name : String)
  /-- The exponent of this name is not in canonical form. -/
  | invalidScalar (name : String)
  | payloadLengthMismatch (first second : Nat)
  | payloadTooLong (limit : Nat)
  /-- The challenge does not have as many bytes as it must. -/
  | challengeLength (expected actual : Nat)
  /-- The first message of a proof does not have as many elements as it must. -/
  | announcementLength (expected actual : Nat)
  /-- The opening does not fit the commitment of this session. -/
  | openingMismatch (session : UInt64)
  | sessionMismatch (expected received : UInt64)
  | duplicateCommitment (session : UInt64)
  | invalidProof
  | invalidTrapdoor
deriving DecidableEq, Repr

inductive ChannelError where
  | closed
  | encoding (reason : String)
  | malformed (reason : String)
deriving DecidableEq, Repr

/-- An argument that the operation does not admit. -/
inductive InputError where
  | witnessMismatch
  | sessionInUse (session : UInt64)
  | unknownSession (session : UInt64)
  /-- The bytes are not a value that can be committed to. -/
  | valueOutOfRange
  | inputLengthMismatch (first second : Nat)
  | inputTooLong (limit : Nat)
  /-- The key derivation makes no key of this length. -/
  | keyLength (length : Nat)
deriving DecidableEq, Repr

/-- Every way in which an operation fails. -/
inductive ProtocolError where
  | setup (cause : SetupError)
  | cheating (cause : Cheating)
  | channel (cause : ChannelError)
  | input (cause : InputError)
deriving DecidableEq, Repr

/-! ## Texts -/

def SetupError.message : SetupError → String
  | soundnessTooLarge bits => s!"soundness parameter of {bits} bits does not satisfy `2^t < q`"
  | soundnessNotAligned bits =>
    s!"soundness parameter of {bits} bits is not a positive multiple of 8"
  | payloadLimitTooLarge requested supported =>
    s!"payload limit of {requested} bytes exceeds the KDF output limit of {supported} bytes"
  | invalidGroup reason => s!"invalid group parameters: {reason}"

def Cheating.message : Cheating → String
  | notMember name => s!"the received element `{name}` is not a member of the group"
  | identityElement name => s!"the received element `{name}` is the identity"
  | invalidScalar name => s!"the received scalar `{name}` is not a canonical exponent"
  | payloadLengthMismatch first second =>
    s!"the masked payloads have different lengths ({first} and {second})"
  | payloadTooLong limit =>
    s!"the masked payload is longer than the configured limit of {limit} bytes"
  | challengeLength expected actual => s!"the challenge has {actual} bytes, expected {expected}"
  | announcementLength expected actual =>
    s!"the first message has {actual} elements, expected {expected}"
  | openingMismatch session =>
    s!"the decommitment does not open the commitment of session {session}"
  | sessionMismatch expected received =>
    s!"the decommitment refers to session {received}, expected {expected}"
  | duplicateCommitment session => s!"a commitment for session {session} was already received"
  | invalidProof => "the proof was rejected"
  | invalidTrapdoor => "the revealed trapdoor does not match the commitment key"

def ChannelError.message : ChannelError → String
  | closed => "the channel is closed"
  | encoding reason => s!"failed to encode an outgoing message: {reason}"
  | malformed reason => s!"failed to decode an incoming frame: {reason}"

def InputError.message : InputError → String
  | witnessMismatch => "the witness does not satisfy the relation for the given statement"
  | sessionInUse session => s!"session {session} is already in use"
  | unknownSession session => s!"session {session} is unknown"
  | valueOutOfRange => "the value does not fit into the commitment domain"
  | inputLengthMismatch first second =>
    s!"the sender inputs have different lengths ({first} and {second})"
  | inputTooLong limit => s!"the sender input is longer than the configured limit of {limit} bytes"
  | keyLength length => s!"the key derivation function cannot produce {length} bytes"

namespace ProtocolError

/-- The text of any failure: who is to blame, then the cause. -/
def message : ProtocolError → String
  | setup cause => "construction error: " ++ cause.message
  | cheating cause => "cheating attempt detected: " ++ cause.message
  | channel cause => "channel failure: " ++ cause.message
  | input cause => "malformed local input: " ++ cause.message

/-- The text of the cause alone. -/
def causeMessage : ProtocolError → String
  | setup cause => cause.message
  | cheating cause => cause.message
  | channel cause => cause.message
  | input cause => cause.message

def isCheating : ProtocolError → Bool
  | cheating _ => true
  | _ => false

end ProtocolError

end TwoParty
