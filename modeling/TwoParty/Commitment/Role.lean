/-
Two-phase commitments: a committer binds itself to a value under a session, and later opens it to
the receiver. Each role keeps one record for every open session, and none is ever overwritten.
The classes say what every scheme offers, and what is left of a session that is closed.
-/
import TwoParty.Attempt

namespace TwoParty

/-- The number of a commitment between two parties. -/
abbrev SessionId := UInt64

/-! ## Open sessions -/

/-- One record for every open session. -/
structure Sessions (α : Type) where
  entries : List (SessionId × α) := []

namespace Sessions

variable {α : Type}

def find? (sessions : Sessions α) (id : SessionId) : Option α :=
  sessions.entries.lookup id

/-- Opens a session that is not open. -/
def insert (sessions : Sessions α) (id : SessionId) (record : α) : Sessions α :=
  ⟨(id, record) :: sessions.entries⟩

def erase (sessions : Sessions α) (id : SessionId) : Sessions α :=
  ⟨sessions.entries.filter fun entry => entry.1 != id⟩

@[simp] theorem find?_empty (id : SessionId) : (⟨[]⟩ : Sessions α).find? id = none := rfl

theorem find?_insert (sessions : Sessions α) (id other : SessionId) (record : α) :
    (sessions.insert id record).find? other =
      if other = id then some record else sessions.find? other := by
  by_cases h : other = id
  · simp [find?, insert, h]
  · have hb : (other == id) = false := by simpa using h
    simp [find?, insert, List.lookup_cons, hb, h]

theorem find?_erase (sessions : Sessions α) (id other : SessionId) :
    (sessions.erase id).find? other = if other = id then none else sessions.find? other := by
  obtain ⟨entries⟩ := sessions
  unfold find? erase
  induction entries with
  | nil => simp
  | cons entry rest ih =>
    obtain ⟨key, record⟩ := entry
    by_cases hk : key = id
    · subst hk
      by_cases h : other = key
      · simpa [h] using ih
      · have hb : (other == key) = false := by simpa using h
        simpa [List.lookup_cons, hb, h] using ih
    · by_cases h : other = key
      · subst h
        simp [hk]
      · have hb : (other == key) = false := by simpa using h
        simpa [List.lookup_cons, hb, hk] using ih

end Sessions

/-- What a committer remembers of a commitment. -/
structure CommitmentRecord (Value Randomness Commitment : Type) where
  value : Value
  randomness : Randomness
  commitment : Commitment

/-- A role that has closed a session, with the record of the session if that was open. -/
structure Closed (Record ρ : Type) where
  record : Option Record
  role : ρ

namespace Closed

variable {Record ρ σ : Type}

instance : CoeOut (Closed Record ρ) ρ := ⟨role⟩

def map (f : ρ → σ) (closed : Closed Record ρ) : Closed Record σ :=
  ⟨closed.record, f closed.role⟩

end Closed

/-! ## Schemes -/

/-- A committer of a scheme. -/
class CommitterRole (ρ : Type) (Value Randomness Commitment Key : outParam Type) where
  /-- Sends a commitment to the value and opens its session. -/
  commit : Value → SessionId → Action ρ Unit
  /-- Opens the commitment of a session to the receiver. -/
  decommit : SessionId → Action ρ Unit
  sampleValue : ρ → Program Value
  valueOfBytes : ρ → Bytes → Except InputError Value
  valueBytes : ρ → Value → Bytes
  record? : ρ → SessionId → Option (CommitmentRecord Value Randomness Commitment)
  /-- Closes a session and gives back its record. -/
  close : SessionId → ρ → Closed (CommitmentRecord Value Randomness Commitment) ρ
  record_close (id : SessionId) (role : ρ) : (close id role).record = record? role id
  record?_close (id other : SessionId) (role : ρ) :
    record? (close id role).role other = if other = id then none else record? role other
  /-- What was agreed on before the first commitment. -/
  key : ρ → Key

/-- A committer that can open a commitment without giving away its randomness. -/
class ProvingCommitterRole (ρ : Type) (Value Randomness Commitment Key : outParam Type)
    extends CommitterRole ρ Value Randomness Commitment Key where
  /-- Sends the value of a session and proves that the commitment opens to it. -/
  prove : SessionId → Action ρ Unit

/-- A receiver of a scheme. -/
class ReceiverRole (ρ : Type) (Value Commitment Key : outParam Type) where
  /-- Receives a commitment and opens its session. -/
  receiveCommitment : Action ρ SessionId
  /-- Receives the opening of a session's commitment. -/
  receiveOpening : SessionId → Action ρ Value
  valueBytes : ρ → Value → Bytes
  commitment? : ρ → SessionId → Option Commitment
  /-- Closes a session and gives back its commitment. -/
  close : SessionId → ρ → Closed Commitment ρ
  record_close (id : SessionId) (role : ρ) : (close id role).record = commitment? role id
  commitment?_close (id other : SessionId) (role : ρ) :
    commitment? (close id role).role other = if other = id then none else commitment? role other
  /-- What was agreed on before the first commitment. -/
  key : ρ → Key

/-- A receiver that can be shown what a commitment holds without its randomness. -/
class VerifyingReceiverRole (ρ : Type) (Value Commitment Key : outParam Type)
    extends ReceiverRole ρ Value Commitment Key where
  /-- Receives the value of a session and the proof that the commitment opens to it. -/
  verifyValue : SessionId → Action ρ Value

end TwoParty
