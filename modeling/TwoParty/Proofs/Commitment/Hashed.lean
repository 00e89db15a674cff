/-
The phases of a hash commitment between parties that keep to it: the commitment goes over, and
later the randomness and the value, of which the receiver makes the same digest. From any other
committer the receiver takes what a frame conveys, if it passes the checks.
-/
import TwoParty.Proofs.Frames
import TwoParty.Proofs.Messages

namespace TwoParty.Hashed

theorem length_digest_lt (hash : Shake) (id : SessionId) (r x : Bytes) :
    (digest hash id r x).length < 2 ^ 64 := by
  unfold digest Shake.output
  have := List.length_take_le 32 (hash.squeeze ((32 + hash.rate - 1) / hash.rate)
    (hash.absorb (preimage id r x)))
  omega

/-! ## Operations as attempts -/

namespace Committer

/-- The record of a new session. -/
def opened (committer : Committer) (id : SessionId) (x r : Bytes) : Committer :=
  { committer with
    sessions := committer.sessions.insert id ⟨x, r, digest committer.hash id r x⟩ }

variable (committer : Committer) (id : SessionId)

@[simp] theorem runIn_noteSession (message : String) :
    (noteSession message id).runIn committer = do
      Attempt.note ⟨.debug, message, [("session", toString id)], committer.span⟩
      return ((), committer) := by
  simp [noteSession]

theorem runIn_commit (x : Bytes) (h : committer.sessions.find? id = none) :
    (commit x id).runIn committer = do
      let r ← Attempt.of (Program.bytes 32)
      Attempt.send (CommitmentMessage.mk id (digest committer.hash id r x))
      Attempt.note ⟨.debug, "hash commitment sent", [("session", toString id)], committer.span⟩
      return ((), committer.opened id x r) := by
  simp [commit, h, opened]

theorem runIn_decommit {record : CommitmentRecord Bytes Bytes Bytes}
    (h : committer.sessions.find? id = some record) :
    (decommit id).runIn committer = do
      Attempt.send (OpeningMessage.mk id record.randomness record.value)
      Attempt.note ⟨.debug, "hash decommitment sent", [("session", toString id)], committer.span⟩
      return ((), committer) := by
  simp [decommit, h]

end Committer

namespace Receiver

/-- The record of a new session. -/
def opened (receiver : Receiver) (id : SessionId) (c : Bytes) : Receiver :=
  { receiver with commitments := receiver.commitments.insert id c }

variable (receiver : Receiver) (id : SessionId)

@[simp] theorem runIn_noteSession (message : String) :
    (noteSession message id).runIn receiver = do
      Attempt.note ⟨.debug, message, [("session", toString id)], receiver.span⟩
      return ((), receiver) := by
  simp [noteSession]

@[simp] theorem runIn_accuse {α : Type} (cause : Cheating) :
    (accuse cause : Action Receiver α).runIn receiver = do
      return (← Attempt.accuse receiver.span cause, receiver) := by
  simp [accuse]

theorem runIn_receiveCommitment :
    receiveCommitment.runIn receiver = do
      let message ← Attempt.receive CommitmentMessage
      if (receiver.commitments.find? message.id).isSome then
        return (← Attempt.accuse receiver.span (.duplicateCommitment message.id), receiver)
      else
        Attempt.note ⟨.debug, "hash commitment received", [("session", toString message.id)],
          receiver.span⟩
        return (message.id, receiver.opened message.id message.c) := by
  simp [receiveCommitment, opened]

theorem runIn_receiveOpening {c : Bytes} (h : receiver.commitments.find? id = some c) :
    (receiveOpening id).runIn receiver = do
      let message ← Attempt.receive OpeningMessage
      if message.id = id then
        if digest receiver.hash id message.r message.x = c then
          Attempt.note ⟨.debug, "hash decommitment accepted", [("session", toString id)],
            receiver.span⟩
          return (message.x, receiver)
        else return (← Attempt.accuse receiver.span (.openingMismatch id), receiver)
      else
        return (← Attempt.accuse receiver.span (.sessionMismatch id message.id), receiver) := by
  simp [receiveOpening, h]

end Receiver

/-! ## Sessions -/

variable {committer : Committer} {receiver : Receiver} {id : SessionId}

theorem yields_bytes (length : Nat) (s : Source) :
    (Program.bytes length).Yields s (s.peek length, s.advance length) :=
  .draw rfl (.done _ _)

theorem commit_meets (x : Bytes) (hc : committer.sessions.find? id = none)
    (hr : receiver.commitments.find? id = none) (s t : Source) :
    ((Committer.commit x id).runIn committer).Meets (Receiver.receiveCommitment.runIn receiver) s t
      [(.first, Wire.write (CommitmentMessage.mk id (digest committer.hash id (s.peek 32) x)))]
      (((), committer.opened id x (s.peek 32)), s.advance 32)
      ((id, receiver.opened id (digest committer.hash id (s.peek 32) x)), t) := by
  have hfits : Wire.Fits (CommitmentMessage.mk id (digest committer.hash id (s.peek 32) x)) :=
    ⟨trivial, length_digest_lt _ _ _ _⟩
  rw [Committer.runIn_commit _ _ _ hc, Receiver.runIn_receiveCommitment]
  refine (Attempt.Yields.of (yields_bytes 32 s)).left ?_
  refine Attempt.Meets.send_bind hfits ?_
  rw [hr]
  refine (Attempt.Yields.note _ _).left ?_
  refine (Attempt.Yields.note _ t).right ?_
  exact Attempt.Meets.pure _ _ _ t

/-- An opening whose digest is the commitment is accepted. -/
theorem decommit_meets {x r c : Bytes} (hc : committer.sessions.find? id = some ⟨x, r, c⟩)
    (hr : receiver.commitments.find? id = some c) (hopen : digest receiver.hash id r x = c)
    (hrlen : r.length < 2 ^ 64) (hxlen : x.length < 2 ^ 64) (s t : Source) :
    ((Committer.decommit id).runIn committer).Meets
      ((Receiver.receiveOpening id).runIn receiver) s t
      [(.first, Wire.write (OpeningMessage.mk id r x))] (((), committer), s)
      ((x, receiver), t) := by
  have hfits : Wire.Fits (OpeningMessage.mk id r x) := ⟨trivial, hrlen, hxlen⟩
  rw [Committer.runIn_decommit _ _ hc, Receiver.runIn_receiveOpening _ _ hr]
  refine Attempt.Meets.send_bind hfits ?_
  rw [if_pos rfl, if_pos hopen]
  refine (Attempt.Yields.note _ s).left ?_
  refine (Attempt.Yields.note _ t).right ?_
  exact Attempt.Meets.pure _ _ s t

/-! ## What is received -/

/-- The session, the randomness and the value that an opening writes. -/
def OpeningMessage.Writes (message : OpeningMessage) (opening : SessionId × Bytes × Bytes) :
    Prop :=
  (message.id, message.r, message.x) = opening

/-- The check of an opening of the commitment `c`; it gives the value. -/
def checkOpening (hash : Shake) (id : SessionId) (c : Bytes) (message : OpeningMessage) :
    Except Cheating Bytes :=
  if message.id = id then
    if digest hash id message.r message.x = c then .ok message.x else .error (.openingMismatch id)
  else .error (.sessionMismatch id message.id)

theorem checkOpening_eq_ok_iff {hash : Shake} {id : SessionId} {c x : Bytes}
    {message : OpeningMessage} : checkOpening hash id c message = .ok x ↔
      ∃ r, message.Writes (id, r, x) ∧ digest hash id r x = c := by
  obtain ⟨id', r, x'⟩ := message
  unfold checkOpening OpeningMessage.Writes
  split
  · rename_i hid
    simp only at hid
    subst hid
    split
    · rename_i hc
      constructor
      · rintro ⟨⟩
        exact ⟨r, rfl, hc⟩
      · rintro ⟨_, ⟨⟩, -⟩
        rfl
    · rename_i hc
      refine iff_of_false nofun ?_
      rintro ⟨_, ⟨⟩, h⟩
      exact hc h
  · rename_i hid
    refine iff_of_false nofun ?_
    rintro ⟨_, ⟨⟩, -⟩
    exact hid rfl

namespace Receiver

variable (receiver : Receiver) (id : SessionId)

/-- The check of a commitment; it gives the session and the commitment. -/
def checkCommitment (message : CommitmentMessage) : Except Cheating (SessionId × Bytes) :=
  if (receiver.commitments.find? message.id).isSome then .error (.duplicateCommitment message.id)
  else .ok (message.id, message.c)

theorem receiveCommitment_eq : receiveCommitment.runIn receiver = do
    let (id, c) ← Attempt.judge receiver.span
      (receiver.checkCommitment (← Attempt.receive CommitmentMessage))
    Attempt.note ⟨.debug, "hash commitment received", [("session", toString id)], receiver.span⟩
    return (id, receiver.opened id c) := by
  rw [runIn_receiveCommitment]
  congr 1
  funext message
  unfold checkCommitment
  split
  · rfl
  · rfl

theorem receiveOpening_eq {c : Bytes} (h : receiver.commitments.find? id = some c) :
    (receiveOpening id).runIn receiver = do
      let x ← Attempt.judge receiver.span
        (checkOpening receiver.hash id c (← Attempt.receive OpeningMessage))
      Attempt.note ⟨.debug, "hash decommitment accepted", [("session", toString id)],
        receiver.span⟩
      return (x, receiver) := by
  rw [runIn_receiveOpening receiver id h]
  congr 1
  funext message
  unfold checkOpening
  split
  · split
    · rfl
    · rfl
  · rfl

end Receiver

end TwoParty.Hashed
