/-
The phases of a Pedersen commitment between parties that keep to it: the key goes over, then for
each session the commitment and the opening. Commitments are computed with logarithms, and a
commitment opens to the value and the randomness that it was made of.
-/
import TwoParty.Commitment.Pedersen
import TwoParty.Proofs.Sigma.Moves

namespace TwoParty.Pedersen

open CyclicGroup

variable {G : CyclicGroup}

/-! ## Keys -/

namespace Key

variable (hG : G.PrimeOrder) {key : Key G}
include hG

theorem isMember_commitment (hg : G.isMember key.g = true) (hh : G.isMember key.h = true)
    (x r : G.Scalar) : G.isMember (key.commitment x r) = true :=
  hG.isMember_multiply (hG.isMember_exponentiate hg r) (hG.isMember_exponentiate hh x)

end Key

/-- The key of a trapdoor. -/
def keyOf (trapdoor : G.Scalar) : Key G :=
  ⟨G.generator, G.exponentiateGenerator trapdoor⟩

theorem isMember_keyOf (hG : G.PrimeOrder) (trapdoor : G.Scalar) :
    G.isMember (keyOf trapdoor).h = true := by
  unfold keyOf
  rw [exponentiateGenerator_eq_antilog]
  exact hG.isMember_antilog _

theorem validatesTrapdoor_keyOf (trapdoor : G.Scalar) :
    (keyOf trapdoor).validatesTrapdoor trapdoor = true := by
  unfold Key.validatesTrapdoor keyOf
  exact decide_eq_true rfl

/-! ## The key goes over -/

/-- The receiver that has sent its key. -/
def Receiver.joined (role : SigmaRole G) (trapdoor : G.Scalar) : Receiver G :=
  ⟨role, keyOf trapdoor, trapdoor, {}⟩

/-- The committer that has received the key of a trapdoor. -/
def Committer.joined (role : SigmaRole G) (trapdoor : G.Scalar) : Committer G :=
  ⟨role, keyOf trapdoor, {}⟩

theorem join_meets (hG : G.PrimeOrder) (role role' : SigmaRole G) {s s' t : Source}
    {trapdoor : G.Scalar} (h : G.nextScalar s = some (trapdoor, s')) :
    (Receiver.join role).Meets (Committer.join role') s t
      [(.first, Wire.write (KeyMessage.mk (G.encode (keyOf trapdoor).h)))]
      (Receiver.joined role trapdoor, s') (Committer.joined role' trapdoor, t) := by
  have hm := isMember_keyOf hG trapdoor
  have hd : G.decodeMember "h" (G.encode (G.exponentiateGenerator trapdoor)) =
      .ok (keyOf trapdoor).h := hG.decodeMember_encode "h" hm
  unfold Receiver.join Committer.join
  refine (Attempt.Yields.of (yields_randomScalar h)).left ?_
  refine Attempt.Meets.send_bind (hG.fits_element hm) ?_
  refine (Attempt.Yields.note _ s').left ?_
  simp only [hd, Attempt.judge_ok, pure_bind]
  refine (Attempt.Yields.note _ t).right ?_
  exact Attempt.Meets.pure _ _ s' t

/-! ## Operations as attempts -/

namespace Committer

/-- The record of a new session. -/
def opened (committer : Committer G) (id : SessionId) (x r : G.Scalar) : Committer G :=
  { committer with sessions := committer.sessions.insert id ⟨x, r, committer.key.commitment x r⟩ }

variable (committer : Committer G) (id : SessionId)

theorem find?_opened (x r : G.Scalar) :
    (committer.opened id x r).sessions.find? id = some ⟨x, r, committer.key.commitment x r⟩ := by
  rw [opened, Sessions.find?_insert, if_pos rfl]

@[simp] theorem runIn_noteSession (message : String) :
    (noteSession message id).runIn committer = do
      Attempt.note ⟨.debug, message, [("session", toString id)], committer.role.span⟩
      return ((), committer) := by
  simp [noteSession]

theorem runIn_commit (x : G.Scalar) (h : committer.sessions.find? id = none) :
    (commit x id).runIn committer = do
      let r ← Attempt.of G.randomScalar
      Attempt.send (CommitmentMessage.mk id (G.encode (committer.key.commitment x r)))
      Attempt.note ⟨.debug, "pedersen commitment sent", [("session", toString id)],
        committer.role.span⟩
      return ((), committer.opened id x r) := by
  simp [commit, h, opened]

theorem runIn_decommit {record : CommitmentRecord G.Scalar G.Scalar G.Element}
    (h : committer.sessions.find? id = some record) :
    (decommit id).runIn committer = do
      Attempt.send
        (OpeningMessage.mk id (G.encodeScalar record.value) (G.encodeScalar record.randomness))
      Attempt.note ⟨.debug, "pedersen decommitment sent", [("session", toString id)],
        committer.role.span⟩
      return ((), committer) := by
  simp [decommit, openRecord, h]

end Committer

namespace Receiver

/-- The record of a new session. -/
def opened (receiver : Receiver G) (id : SessionId) (c : G.Element) : Receiver G :=
  { receiver with commitments := receiver.commitments.insert id c }

variable (receiver : Receiver G) (id : SessionId)

theorem find?_opened (c : G.Element) :
    (receiver.opened id c).commitments.find? id = some c := by
  rw [opened, Sessions.find?_insert, if_pos rfl]

@[simp] theorem runIn_noteSession (message : String) :
    (noteSession message id).runIn receiver = do
      Attempt.note ⟨.debug, message, [("session", toString id)], receiver.role.span⟩
      return ((), receiver) := by
  simp [noteSession]

@[simp] theorem runIn_judge {α : Type} (check : Except Cheating α) :
    (judge check).runIn receiver = do
      return (← Attempt.judge receiver.role.span check, receiver) := by
  simp [judge]

theorem runIn_receiveCommitment :
    receiveCommitment.runIn receiver = do
      let message ← Attempt.receive CommitmentMessage
      let c ← Attempt.judge receiver.role.span (G.decodeMember "c" message.c)
      if (receiver.commitments.find? message.id).isSome then
        return (← Attempt.judge receiver.role.span (.error (.duplicateCommitment message.id)),
          receiver)
      else
        Attempt.note ⟨.debug, "pedersen commitment received", [("session", toString message.id)],
          receiver.role.span⟩
        return (message.id, receiver.opened message.id c) := by
  simp [receiveCommitment, opened]

theorem runIn_receiveOpening {c : G.Element} (h : receiver.commitments.find? id = some c) :
    (receiveOpening id).runIn receiver = do
      let message ← Attempt.receive OpeningMessage
      Attempt.judge receiver.role.span (checkSession id message.id)
      let x ← Attempt.judge receiver.role.span (G.decodeReceivedScalar "x" message.x)
      let r ← Attempt.judge receiver.role.span (G.decodeReceivedScalar "r" message.r)
      if receiver.key.commitment x r = c then
        Attempt.note ⟨.debug, "pedersen decommitment accepted", [("session", toString id)],
          receiver.role.span⟩
        return (x, receiver)
      else
        return (← Attempt.judge receiver.role.span (.error (.openingMismatch id)), receiver) := by
  simp [receiveOpening, openCommitment, h]

end Receiver

/-! ## Sessions -/

theorem commit_meets (hG : G.PrimeOrder) (receiver : Receiver G) (committer : Committer G)
    (id : SessionId) (x : G.Scalar) (hg : G.isMember committer.key.g = true)
    (hh : G.isMember committer.key.h = true) (hr : receiver.commitments.find? id = none)
    (hc : committer.sessions.find? id = none) {s t t' : Source} {r : G.Scalar}
    (h : G.nextScalar t = some (r, t')) :
    (Receiver.receiveCommitment.runIn receiver).Meets ((Committer.commit x id).runIn committer) s t
      [(.second, Wire.write (CommitmentMessage.mk id (G.encode (committer.key.commitment x r))))]
      ((id, receiver.opened id (committer.key.commitment x r)), s)
      (((), committer.opened id x r), t') := by
  have hm := Key.isMember_commitment hG hg hh x r
  have hfits : Wire.Fits (CommitmentMessage.mk id (G.encode (committer.key.commitment x r))) :=
    ⟨trivial, hG.fits_element hm⟩
  rw [Receiver.runIn_receiveCommitment, Committer.runIn_commit _ _ _ hc]
  refine (Attempt.Yields.of (yields_randomScalar h)).right ?_
  refine Attempt.Meets.receive_bind hfits ?_
  -- the commitment is a member, and its session is not open yet
  rw [hG.decodeMember_encode "c" hm, Attempt.judge_ok, pure_bind, hr]
  refine (Attempt.Yields.note _ s).left ?_
  refine (Attempt.Yields.note _ t').right ?_
  exact Attempt.Meets.pure _ _ s t'

/-- An opening that fits the commitment is accepted. -/
theorem decommit_meets (hG : G.PrimeOrder) {receiver : Receiver G} {committer : Committer G}
    {id : SessionId} {x r : G.Scalar} {c : G.Element}
    (hc : committer.sessions.find? id = some ⟨x, r, c⟩)
    (hr : receiver.commitments.find? id = some c) (hopen : receiver.key.commitment x r = c)
    (s t : Source) :
    ((Receiver.receiveOpening id).runIn receiver).Meets
      ((Committer.decommit id).runIn committer) s t
      [(.second, Wire.write (OpeningMessage.mk id (G.encodeScalar x) (G.encodeScalar r)))]
      ((x, receiver), s) (((), committer), t) := by
  have hfits : Wire.Fits (OpeningMessage.mk id (G.encodeScalar x) (G.encodeScalar r)) :=
    ⟨trivial, hG.fits_scalar x, hG.fits_scalar r⟩
  rw [Receiver.runIn_receiveOpening _ _ hr, Committer.runIn_decommit _ _ hc]
  refine Attempt.Meets.receive_bind hfits ?_
  -- every check of the opening is passed
  have hid : Receiver.checkSession id id = .ok () := if_pos rfl
  rw [hid, decodeReceivedScalar_encodeScalar, decodeReceivedScalar_encodeScalar, Attempt.judge_ok,
    Attempt.judge_ok, Attempt.judge_ok, pure_bind, pure_bind, pure_bind, if_pos hopen]
  refine (Attempt.Yields.note _ s).left ?_
  refine (Attempt.Yields.note _ t).right ?_
  exact Attempt.Meets.pure _ _ s t

/-- The opening of the last commitment is accepted. -/
theorem decommit_opened_meets (hG : G.PrimeOrder) (receiver : Receiver G) (committer : Committer G)
    (hkey : receiver.key = committer.key) (id : SessionId) (x r : G.Scalar) (s t : Source) :
    ((Receiver.receiveOpening id).runIn
        (receiver.opened id (committer.key.commitment x r))).Meets
      ((Committer.decommit id).runIn (committer.opened id x r)) s t
      [(.second, Wire.write (OpeningMessage.mk id (G.encodeScalar x) (G.encodeScalar r)))]
      ((x, receiver.opened id (committer.key.commitment x r)), s)
      (((), committer.opened id x r), t) := by
  refine decommit_meets hG (Committer.find?_opened _ _ _ _) (Receiver.find?_opened _ _ _) ?_ s t
  show receiver.key.commitment x r = _
  rw [hkey]

end TwoParty.Pedersen
