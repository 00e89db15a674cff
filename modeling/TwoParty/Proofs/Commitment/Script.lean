/-
Whole runs of a commitment scheme. The committer goes through a script of operations with many
sessions open at once; the receiver goes through the same operations in the same order, as late as
it likes, and only where both parties speak are they run together. What the receiver is behind with
waits in the queue: each operation that it has not matched yet leads from one table of open sessions
to the next, the last of which is the committer's. That is the invariant, and an operation moves one
end of it.
-/
import TwoParty.Commitment.Equivocal
import TwoParty.Proofs.Program.OneWay

namespace TwoParty

/-! ## Tables of open sessions -/

namespace Sessions

variable {α β : Type} {T : Sessions α} {id : SessionId} {a : α}

def map (f : α → β) (T : Sessions α) : Sessions β :=
  ⟨T.entries.map fun entry => (entry.1, f entry.2)⟩

theorem map_erase (f : α → β) (T : Sessions α) (id : SessionId) :
    (T.erase id).map f = (T.map f).erase id := by
  unfold map erase
  rw [List.filter_map]
  rfl

theorem find?_map (f : α → β) (T : Sessions α) (id : SessionId) :
    (T.map f).find? id = (T.find? id).map f := by
  obtain ⟨entries⟩ := T
  unfold find? map
  induction entries with
  | nil => rfl
  | cons entry rest ih =>
    obtain ⟨key, a⟩ := entry
    simp only [List.map_cons, List.lookup_cons]
    split
    · rfl
    · exact ih

/-- All records of the table are as they should be. -/
def All (P : SessionId → α → Prop) (T : Sessions α) : Prop :=
  ∀ id a, T.find? id = some a → P id a

variable {P : SessionId → α → Prop}

theorem All.empty : (⟨[]⟩ : Sessions α).All P := nofun

theorem All.mono {P' : SessionId → α → Prop} (h : T.All P) (hP : ∀ id a, P id a → P' id a) :
    T.All P' :=
  fun id a ha => hP id a (h id a ha)

theorem All.insert (h : T.All P) (ha : P id a) : (T.insert id a).All P := by
  intro other b hb
  rw [find?_insert] at hb
  split at hb
  · rename_i heq; cases heq; cases hb; exact ha
  · exact h other b hb

theorem All.erase (h : T.All P) (id : SessionId) : (T.erase id).All P := by
  intro other b hb
  rw [find?_erase] at hb
  split at hb
  · cases hb
  · exact h other b hb

end Sessions

/-! ## Schemes -/

/-- The operations of a commitment scheme, on the committer's side and on the receiver's. There may
be several manners to reveal a value; in the joint ones both parties speak. -/
structure Scheme (ρ σ Value Commitment Manner : Type) where
  commit : Value → SessionId → Action ρ Unit
  reveal : Manner → SessionId → Action ρ Unit
  forgetSent : SessionId → ρ → ρ
  sent? : ρ → SessionId → Option Commitment
  receiveCommitment : Action σ SessionId
  accept : Manner → SessionId → Action σ Value
  forgetReceived : SessionId → σ → σ
  received? : σ → SessionId → Option Commitment
  joint : Manner → Bool

/-- How a value is revealed by a committer that can also prove it. -/
inductive Manner where
  | opening
  | proof
deriving DecidableEq, Repr

namespace Scheme

variable {Value Randomness Commitment Key Key' : Type}

/-- A scheme with one manner to reveal a value. -/
def plain (ρ σ : Type) [CommitterRole ρ Value Randomness Commitment Key]
    [ReceiverRole σ Value Commitment Key'] (joint : Bool) :
    Scheme ρ σ Value Commitment Unit where
  commit := CommitterRole.commit
  reveal _ := CommitterRole.decommit
  forgetSent id committer := CommitterRole.close id committer
  sent? committer id := (CommitterRole.record? committer id).map CommitmentRecord.commitment
  receiveCommitment := ReceiverRole.receiveCommitment
  accept _ := ReceiverRole.receiveOpening
  forgetReceived id receiver := ReceiverRole.close id receiver
  received? := ReceiverRole.commitment?
  joint _ := joint

/-- A scheme with openings and proofs, of which the proofs are joint. -/
def proving (ρ σ : Type) [ProvingCommitterRole ρ Value Randomness Commitment Key]
    [VerifyingReceiverRole σ Value Commitment Key'] :
    Scheme ρ σ Value Commitment Manner where
  commit := CommitterRole.commit
  reveal
    | .opening => CommitterRole.decommit
    | .proof => ProvingCommitterRole.prove
  forgetSent id committer := CommitterRole.close id committer
  sent? committer id := (CommitterRole.record? committer id).map CommitmentRecord.commitment
  receiveCommitment := ReceiverRole.receiveCommitment
  accept
    | .opening => ReceiverRole.receiveOpening
    | .proof => VerifyingReceiverRole.verifyValue
  forgetReceived id receiver := ReceiverRole.close id receiver
  received? := ReceiverRole.commitment?
  joint
    | .opening => false
    | .proof => true

end Scheme

/-! ## Scripts -/

/-- An operation of the committer. -/
inductive Operation (Value Manner : Type) where
  | commit (value : Value) (id : SessionId)
  | reveal (manner : Manner) (id : SessionId)
  | close (id : SessionId)

/-- What the receiver gets from its part of an operation. -/
inductive Reply (Value : Type) where
  | session (id : SessionId)
  | value (value : Value)
  | closed

namespace Operation

variable {Value Manner : Type}

/-- The values under the open ids after an operation. -/
def book (held : Sessions Value) : Operation Value Manner → Sessions Value
  | commit value id => held.insert id value
  | reveal _ _ => held
  | close id => held.erase id

/-- Commitments are made to admissible values under ids that are not open; the other operations are
for ids that are. -/
def Admissible (Fits : Value → Prop) (held : Sessions Value) : Operation Value Manner → Prop
  | commit value id => held.find? id = none ∧ Fits value
  | reveal _ id => ∃ value, held.find? id = some value
  | close id => ∃ value, held.find? id = some value

/-- The right reply: the id that was used, or the value that was committed to under it. -/
def Answered (held : Sessions Value) (reply : Reply Value) : Operation Value Manner → Prop
  | commit _ id => reply = .session id
  | reveal _ id => ∃ value, held.find? id = some value ∧ reply = .value value
  | close _ => reply = .closed

def isJoint (joint : Manner → Bool) : Operation Value Manner → Bool
  | reveal manner _ => joint manner
  | _ => false

end Operation

section Scripts

variable {Value Commitment Manner : Type}

/-- Every operation of the script is admissible when its turn comes. -/
def Admitted (Fits : Value → Prop) : Sessions Value → List (Operation Value Manner) → Prop
  | _, [] => True
  | held, op :: script => op.Admissible Fits held ∧ Admitted Fits (op.book held) script

/-- Who goes on. -/
inductive Turn where
  | committer
  | receiver
  | both
deriving DecidableEq, Repr

/-- An order in which the committer can go through its script and the receiver through what it is
behind with and then through the script. The receiver may be behind by any number of operations. At
a joint one the committer waits for it, so it catches up with all of them then. -/
inductive Interleaves (joint : Manner → Bool) :
    (behind script : List (Operation Value Manner)) → List Turn → Prop
  | done : Interleaves joint [] [] []
  | ahead {behind script : List (Operation Value Manner)} {op : Operation Value Manner}
    {turns : List Turn} (halone : op.isJoint joint = false)
    (h : Interleaves joint (behind ++ [op]) script turns) :
    Interleaves joint behind (op :: script) (.committer :: turns)
  | catchUp {behind script : List (Operation Value Manner)} {op : Operation Value Manner}
    {turns : List Turn} (h : Interleaves joint behind script turns) :
    Interleaves joint (op :: behind) script (.receiver :: turns)
  | together {behind script : List (Operation Value Manner)} {op : Operation Value Manner}
    {turns : List Turn} (hjoint : op.isJoint joint = true)
    (h : Interleaves joint [] script turns) :
    Interleaves joint behind (op :: script) (.both :: turns)

/-- Both parties hold the same commitment under every open id, and none under the others. -/
def SameCommitments (held : Sessions Value) (sent received : SessionId → Option Commitment) :
    Prop :=
  ∀ id, received id = sent id ∧ (received id).isSome = (held.find? id).isSome

/-- The values under the open ids after some operations. -/
def bookAll (held : Sessions Value) (ops : List (Operation Value Manner)) : Sessions Value :=
  ops.foldl (fun held op => op.book held) held

theorem bookAll_append (held : Sessions Value) (ops ops' : List (Operation Value Manner)) :
    bookAll held (ops ++ ops') = bookAll (bookAll held ops) ops' :=
  List.foldl_append

/-- The receiver has matched the operations: it got the right replies, and after each operation it
held the commitments that stand with it. -/
def Matched : Sessions Value → List (Operation Value Manner × (SessionId → Option Commitment)) →
    List (Reply Value × (SessionId → Option Commitment)) → Prop
  | _, [], [] => True
  | held, (op, sent) :: behind, (reply, received) :: replies =>
    op.Answered held reply ∧ SameCommitments (op.book held) sent received ∧
      Matched (op.book held) behind replies
  | _, _, _ => False

theorem Matched.snoc {held : Sessions Value} {op : Operation Value Manner} {reply : Reply Value}
    {behind : List (Operation Value Manner × (SessionId → Option Commitment))}
    {replies : List (Reply Value × (SessionId → Option Commitment))}
    {sent received : SessionId → Option Commitment} (h : Matched held behind replies)
    (hreply : op.Answered (bookAll held (behind.map Prod.fst)) reply)
    (hsame : SameCommitments (op.book (bookAll held (behind.map Prod.fst))) sent received) :
    Matched held (behind ++ [(op, sent)]) (replies ++ [(reply, received)]) := by
  induction behind generalizing held replies with
  | nil =>
    cases replies with
    | nil => exact ⟨hreply, hsame, trivial⟩
    | cons => cases h
  | cons first behind ih =>
    cases replies with
    | nil => cases h
    | cons => exact ⟨h.1, h.2.1, ih h.2.2 hreply hsame⟩

end Scripts

/-! ## Runs of a script -/

namespace Scheme

variable {ρ σ Value Commitment Manner : Type}

/-- The committer's part of an operation. -/
def perform (𝒮 : Scheme ρ σ Value Commitment Manner) : Operation Value Manner → Action ρ Unit
  | .commit value id => 𝒮.commit value id
  | .reveal manner id => 𝒮.reveal manner id
  | .close id => do Action.put (𝒮.forgetSent id (← Action.state))

/-- The receiver's part of an operation. -/
def follow (𝒮 : Scheme ρ σ Value Commitment Manner) :
    Operation Value Manner → Action σ (Reply Value)
  | .commit _ _ => Reply.session <$> 𝒮.receiveCommitment
  | .reveal manner id => Reply.value <$> 𝒮.accept manner id
  | .close id => do
    Action.put (𝒮.forgetReceived id (← Action.state))
    return .closed

/-- The receiver's part of one operation after the other. With each reply stand the commitments that
it holds then. -/
def followAll (𝒮 : Scheme ρ σ Value Commitment Manner) :
    List (Operation Value Manner) →
      Action σ (List (Reply Value × (SessionId → Option Commitment)))
  | [] => return []
  | op :: ops => do
    let reply ← 𝒮.follow op
    let receiver ← Action.state
    let replies ← 𝒮.followAll ops
    return (reply, 𝒮.received? receiver) :: replies

theorem runIn_followAll_cons (𝒮 : Scheme ρ σ Value Commitment Manner)
    (op : Operation Value Manner) (ops : List (Operation Value Manner)) (receiver : σ) :
    (𝒮.followAll (op :: ops)).runIn receiver = (𝒮.follow op).runIn receiver >>= fun p =>
      (fun q => ((p.1, 𝒮.received? p.2) :: q.1, q.2)) <$> (𝒮.followAll ops).runIn p.2 := by
  simp [followAll]

theorem runIn_followAll_snoc (𝒮 : Scheme ρ σ Value Commitment Manner)
    (op : Operation Value Manner) (ops : List (Operation Value Manner)) (receiver : σ) :
    (𝒮.followAll (ops ++ [op])).runIn receiver = (𝒮.followAll ops).runIn receiver >>= fun p =>
      (fun q => (p.1 ++ [(q.1, 𝒮.received? q.2)], q.2)) <$> (𝒮.follow op).runIn p.2 := by
  induction ops generalizing receiver with
  | nil => simp [followAll]
  | cons first ops ih =>
    rw [List.cons_append, runIn_followAll_cons, runIn_followAll_cons]
    simp only [ih]
    simp

/-- The operations are run over the link in the order of the turns, the committer's on the first
side: all of them succeed, the receiver's with the right replies; when the receiver has matched an
operation, it holds the commitments that the committer held after that operation; and at the end no
frame is left. With each operation that the receiver is behind with stand the commitments that it
left the committer with, and `held` are the values under the ids that are open to the receiver. -/
def Agrees (𝒮 : Scheme ρ σ Value Commitment Manner) :
    List Turn → (behind : List (Operation Value Manner × (SessionId → Option Commitment))) →
    (script : List (Operation Value Manner)) → (held : Sessions Value) → ρ → σ → Link → Prop
  | [], [], [], _, _, _, link => link.first.inbox = [] ∧ link.second.inbox = []
  | .committer :: turns, behind, op :: script, held, committer, receiver, link =>
    ∃ o link' committer', link.run .first ((𝒮.perform op).runIn committer).run = some (o, link') ∧
      o.result = .ok ((), committer') ∧
      𝒮.Agrees turns (behind ++ [(op, 𝒮.sent? committer')]) script held committer' receiver link'
  | .receiver :: turns, (op, sent) :: behind, script, held, committer, receiver, link =>
    ∃ o link' reply receiver',
      link.run .second ((𝒮.follow op).runIn receiver).run = some (o, link') ∧
      o.result = .ok (reply, receiver') ∧ op.Answered held reply ∧
      SameCommitments (op.book held) sent (𝒮.received? receiver') ∧
      𝒮.Agrees turns behind script (op.book held) committer receiver' link'
  | .both :: turns, behind, op :: script, held, committer, receiver, link =>
    ∃ o link' committer' replies receiver',
      link.runBoth ((𝒮.perform op).runIn committer).run
        ((𝒮.followAll (behind.map Prod.fst ++ [op])).runIn receiver).run = some (o, link') ∧
      o.left.result = .ok ((), committer') ∧ o.right.result = .ok (replies, receiver') ∧
      Matched held (behind ++ [(op, 𝒮.sent? committer')]) replies ∧
      𝒮.Agrees turns [] script (bookAll held (behind.map Prod.fst ++ [op])) committer' receiver'
        link'
  | _, _, _, _, _, _, _ => False

end Scheme

/-! ## Honest conduct -/

/-- The records under the open ids. -/
abbrev Table (Value Randomness Commitment : Type) :=
  Sessions (CommitmentRecord Value Randomness Commitment)

/-- The honest roles of a scheme. What either party stores is given by one table of records, of
which the committer holds all and the receiver the commitments; and each operation of both leads
from one table to the next. Whether a source has the draws that a script needs is `Supplied`. -/
structure Conduct {ρ σ Value Commitment Manner : Type} (𝒮 : Scheme ρ σ Value Commitment Manner)
    (Randomness : Type) where
  committer : Table Value Randomness Commitment → ρ
  receiver : Table Value Randomness Commitment → σ
  Good : SessionId → CommitmentRecord Value Randomness Commitment → Prop
  Fits : Value → Prop
  Supplied : Source → List (Operation Value Manner) → Prop
  sent?_committer (T : Table Value Randomness Commitment) (id : SessionId) :
    𝒮.sent? (committer T) id = (T.find? id).map CommitmentRecord.commitment
  received?_receiver (T : Table Value Randomness Commitment) (id : SessionId) :
    𝒮.received? (receiver T) id = (T.find? id).map CommitmentRecord.commitment
  forget_committer (T : Table Value Randomness Commitment) (id : SessionId) :
    𝒮.forgetSent id (committer T) = committer (T.erase id)
  forget_receiver (T : Table Value Randomness Commitment) (id : SessionId) :
    𝒮.forgetReceived id (receiver T) = receiver (T.erase id)
  supplied_close {s : Source} {id : SessionId} {script : List (Operation Value Manner)} :
    Supplied s (.close id :: script) → Supplied s script
  commit_meets {T : Table Value Randomness Commitment} {id : SessionId} {value : Value} {s : Source}
    {script : List (Operation Value Manner)} : T.find? id = none → Fits value →
    Supplied s (.commit value id :: script) → ∃ record s' frame, record.value = value ∧
      Good id record ∧ Supplied s' script ∧ ∀ t,
        ((𝒮.commit value id).runIn (committer T)).Meets (𝒮.receiveCommitment.runIn (receiver T)) s t
          [(.first, frame)] (((), committer (T.insert id record)), s')
          ((id, receiver (T.insert id record)), t)
  reveal_meets {T : Table Value Randomness Commitment} {id : SessionId} {manner : Manner}
    {record : CommitmentRecord Value Randomness Commitment} {s : Source}
    {script : List (Operation Value Manner)} : T.find? id = some record → Good id record →
    𝒮.joint manner = false → Supplied s (.reveal manner id :: script) →
    Supplied s script ∧ ∃ frame, ∀ t,
      ((𝒮.reveal manner id).runIn (committer T)).Meets ((𝒮.accept manner id).runIn (receiver T)) s t
        [(.first, frame)] (((), committer T), s) ((record.value, receiver T), t)
  joint_meets {T : Table Value Randomness Commitment} {id : SessionId} {manner : Manner}
    {record : CommitmentRecord Value Randomness Commitment} {s : Source}
    {script : List (Operation Value Manner)} : T.find? id = some record → Good id record →
    𝒮.joint manner = true → Supplied s (.reveal manner id :: script) →
    ∃ s', Supplied s' script ∧ ∀ t, ∃ t' passages,
      ((𝒮.reveal manner id).runIn (committer T)).Meets ((𝒮.accept manner id).runIn (receiver T)) s t
        passages (((), committer T), s') ((record.value, receiver T), t')

namespace Conduct

variable {ρ σ Value Randomness Commitment Manner : Type}
  {𝒮 : Scheme ρ σ Value Commitment Manner} (κ : Conduct 𝒮 Randomness)
  {T T' Tc : Table Value Randomness Commitment} {op : Operation Value Manner}
  {script : List (Operation Value Manner)} {s t : Source}

/-- The values of a table. -/
def values (T : Table Value Randomness Commitment) : Sessions Value :=
  T.map CommitmentRecord.value

theorem find?_values (T : Table Value Randomness Commitment) (id : SessionId) :
    (values T).find? id = (T.find? id).map CommitmentRecord.value :=
  Sessions.find?_map _ _ _

theorem find?_of_values_none {id : SessionId} (h : (values T).find? id = none) :
    T.find? id = none := by
  rw [find?_values, Option.map_eq_none_iff] at h
  exact h

theorem find?_of_values_some {id : SessionId} {value : Value}
    (h : (values T).find? id = some value) :
    ∃ record, T.find? id = some record ∧ record.value = value := by
  rw [find?_values] at h
  exact Option.map_eq_some_iff.1 h

theorem sameCommitments (T : Table Value Randomness Commitment) :
    SameCommitments (values T) (𝒮.sent? (κ.committer T)) (𝒮.received? (κ.receiver T)) := by
  intro id
  rw [κ.sent?_committer, κ.received?_receiver, find?_values]
  exact ⟨rfl, by simp⟩

/-! ## One operation -/

/-- Of an operation in which only the committer speaks, the frames all go to the receiver. -/
theorem alone_meets (hT : T.All κ.Good) (hop : op.Admissible κ.Fits (values T))
    (halone : op.isJoint 𝒮.joint = false) (hs : κ.Supplied s (op :: script)) :
    ∃ T' s' reply, ∃ frames : List Bytes, T'.All κ.Good ∧ values T' = op.book (values T) ∧
      κ.Supplied s' script ∧ op.Answered (values T) reply ∧ ∀ t,
        ((𝒮.perform op).runIn (κ.committer T)).Meets ((𝒮.follow op).runIn (κ.receiver T)) s t
          (frames.map (Side.first, ·)) (((), κ.committer T'), s')
          ((reply, κ.receiver T'), t) := by
  cases op with
  | commit value id =>
    obtain ⟨hnew, hfits⟩ := hop
    obtain ⟨record, s', frame, rfl, hgood, hs', hmeets⟩ :=
      κ.commit_meets (find?_of_values_none hnew) hfits hs
    refine ⟨T.insert id record, s', .session id, [frame], hT.insert hgood, rfl, hs', rfl,
      fun t => ?_⟩
    show Attempt.Meets _ ((Reply.session <$> 𝒮.receiveCommitment).runIn _) _ _ _ _ _
    rw [Action.runIn_map]
    exact (hmeets t).map_right _
  | reveal manner id =>
    obtain ⟨value, hvalue⟩ := hop
    obtain ⟨record, hrecord, rfl⟩ := find?_of_values_some hvalue
    obtain ⟨hs', frame, hmeets⟩ := κ.reveal_meets hrecord (hT id record hrecord) halone hs
    refine ⟨T, s, .value record.value, [frame], hT, rfl, hs', ⟨_, hvalue, rfl⟩, fun t => ?_⟩
    show Attempt.Meets _ ((Reply.value <$> 𝒮.accept manner id).runIn _) _ _ _ _ _
    rw [Action.runIn_map]
    exact (hmeets t).map_right _
  | close id =>
    refine ⟨T.erase id, s, .closed, [], hT.erase id, Sessions.map_erase _ _ _,
      κ.supplied_close hs, rfl, fun t => ?_⟩
    rw [← κ.forget_committer, ← κ.forget_receiver]
    exact Attempt.Meets.pure ((), 𝒮.forgetSent id (κ.committer T))
      (Reply.closed, 𝒮.forgetReceived id (κ.receiver T)) s t

/-- A joint operation reveals a value and leaves the table as it is. -/
theorem together_meets (hT : T.All κ.Good) (hop : op.Admissible κ.Fits (values T))
    (hjoint : op.isJoint 𝒮.joint = true) (hs : κ.Supplied s (op :: script)) (t : Source) :
    ∃ s' t' passages reply, values T = op.book (values T) ∧ κ.Supplied s' script ∧
      op.Answered (values T) reply ∧
      ((𝒮.perform op).runIn (κ.committer T)).Meets ((𝒮.follow op).runIn (κ.receiver T)) s t
        passages (((), κ.committer T), s') ((reply, κ.receiver T), t') := by
  cases op with
  | commit value id => cases hjoint
  | close id => cases hjoint
  | reveal manner id =>
    obtain ⟨value, hvalue⟩ := hop
    obtain ⟨record, hrecord, rfl⟩ := find?_of_values_some hvalue
    obtain ⟨s', hs', hmeets⟩ := κ.joint_meets hrecord (hT id record hrecord) hjoint hs
    obtain ⟨t', passages, hmeets⟩ := hmeets t
    refine ⟨s', t', passages, .value record.value, rfl, hs', ⟨_, hvalue, rfl⟩, ?_⟩
    show Attempt.Meets _ ((Reply.value <$> 𝒮.accept manner id).runIn _) _ _ _ _ _
    rw [Action.runIn_map]
    exact hmeets.map_right _

/-! ## What the receiver is behind with -/

/-- The frames let the receiver match the operation, from the table `T` to `T'`. -/
def Pending (T : Table Value Randomness Commitment) (op : Operation Value Manner)
    (T' : Table Value Randomness Commitment) (frames : List Bytes) : Prop :=
  values T' = op.book (values T) ∧ ∃ reply, op.Answered (values T) reply ∧
    ((𝒮.follow op).runIn (κ.receiver T)).Absorbs frames (reply, κ.receiver T')

/-- The operations that the receiver has not matched yet lead from its table to the committer's,
and their frames are what waits for it. -/
inductive Backlog : Table Value Randomness Commitment →
    List (Operation Value Manner × (SessionId → Option Commitment)) → List Bytes →
    Table Value Randomness Commitment → Prop
  | nil (T : Table Value Randomness Commitment) : Backlog T [] [] T
  | cons {T T' Tc : Table Value Randomness Commitment} {op : Operation Value Manner}
    {behind : List (Operation Value Manner × (SessionId → Option Commitment))}
    {frames later : List Bytes} (hpending : κ.Pending T op T' frames)
    (h : Backlog T' behind later Tc) :
    Backlog T ((op, 𝒮.sent? (κ.committer T')) :: behind) (frames ++ later) Tc

variable {κ} {behind : List (Operation Value Manner × (SessionId → Option Commitment))}
  {inbox frames : List Bytes}

/-- The committer goes ahead by one operation. -/
theorem Backlog.snoc (h : κ.Backlog T behind inbox Tc) (hpending : κ.Pending Tc op T' frames) :
    κ.Backlog T (behind ++ [(op, 𝒮.sent? (κ.committer T'))]) (inbox ++ frames) T' := by
  induction h with
  | nil T =>
    have hcons := Backlog.cons hpending (.nil T')
    rwa [List.append_nil] at hcons
  | cons hfirst _ ih =>
    rw [List.cons_append, List.append_assoc]
    exact .cons hfirst (ih hpending)

theorem Backlog.values_eq (h : κ.Backlog T behind inbox Tc) :
    values Tc = bookAll (values T) (behind.map Prod.fst) := by
  induction h with
  | nil T => rfl
  | cons hfirst _ ih => rw [ih, hfirst.1]; rfl

/-- The receiver can match all that it is behind with at once. -/
theorem Backlog.absorbs (h : κ.Backlog T behind inbox Tc) :
    ∃ replies, Matched (values T) behind replies ∧
      ((𝒮.followAll (behind.map Prod.fst)).runIn (κ.receiver T)).Absorbs inbox
        (replies, κ.receiver Tc) := by
  induction h with
  | nil T => exact ⟨[], trivial, .pure _⟩
  | @cons T T' Tc op behind frames later hfirst _ ih =>
    obtain ⟨hvalues, reply, hreply, habsorbs⟩ := hfirst
    obtain ⟨replies, hmatched, hrest⟩ := ih
    rw [hvalues] at hmatched
    refine ⟨(reply, 𝒮.received? (κ.receiver T')) :: replies, ⟨hreply, ?_, hmatched⟩, ?_⟩
    · rw [← hvalues]
      exact κ.sameCommitments T'
    · rw [List.map_cons, Scheme.runIn_followAll_cons]
      exact habsorbs.bind (hrest.map _)

/-! ## Whole runs -/

/-- However far the receiver is behind, the rest of the script is run in agreement. -/
theorem Backlog.agrees {ops : List (Operation Value Manner)} {turns : List Turn}
    (hturns : Interleaves 𝒮.joint ops script turns) (hops : behind.map Prod.fst = ops)
    (h : κ.Backlog T behind inbox Tc) (hTc : Tc.All κ.Good)
    (hscript : Admitted κ.Fits (values Tc) script) (hs : κ.Supplied s script) (t : Source) :
    𝒮.Agrees turns behind script (values T) (κ.committer Tc) (κ.receiver T)
      (.lagging s t inbox) := by
  induction hturns generalizing T Tc s t behind inbox with
  | done =>
    rw [List.map_eq_nil_iff] at hops
    subst hops
    cases h
    exact ⟨rfl, rfl⟩
  | ahead halone _ ih =>
    obtain ⟨hop, hscript⟩ := hscript
    obtain ⟨T', s', reply, frames, hT', hvalues, hs', hreply, hmeets⟩ :=
      κ.alone_meets hTc hop halone hs
    obtain ⟨o, hrun, hresult⟩ := (hmeets t).run_first t inbox
    -- the receiver's half waits behind the others
    have hpending : κ.Pending Tc _ T' frames :=
      ⟨hvalues, reply, hreply, .of_meets hmeets⟩
    refine ⟨o, _, _, hrun, hresult, ih ?_ (h.snoc hpending) hT' ?_ hs' t⟩
    · rw [List.map_append, hops]
      rfl
    · rw [hvalues]
      exact hscript
  | catchUp _ ih =>
    cases h with
    | nil => cases hops
    | cons hpending h =>
      rw [List.map_cons, List.cons.injEq] at hops
      obtain ⟨rfl, hops⟩ := hops
      obtain ⟨hvalues, reply, hreply, habsorbs⟩ := hpending
      obtain ⟨o, hrun, hresult⟩ := habsorbs.run_second s t _
      refine ⟨o, _, reply, _, hrun, hresult, hreply, ?_, ?_⟩
      · rw [← hvalues]
        exact κ.sameCommitments _
      · rw [← hvalues]
        exact ih hops h hTc hscript hs t
  | @together _ _ op _ hjoint _ ih =>
    obtain ⟨hop, hscript⟩ := hscript
    obtain ⟨replies, hmatched, habsorbs⟩ := h.absorbs
    obtain ⟨s', t', passages, reply, hvalues, hs', hreply, hmeets⟩ :=
      κ.together_meets hTc hop hjoint hs t
    obtain ⟨o, hrun, hleft, hright⟩ := habsorbs.runBoth
      (g := fun p => (fun q => (p.1 ++ [(q.1, 𝒮.received? q.2)], q.2)) <$>
        (𝒮.follow op).runIn p.2) (hmeets.map_right _)
    have hsame : SameCommitments (op.book (values Tc)) (𝒮.sent? (κ.committer Tc))
        (𝒮.received? (κ.receiver Tc)) := by
      rw [← hvalues]
      exact κ.sameCommitments Tc
    have hbook : values Tc = bookAll (values T) (behind.map Prod.fst ++ [op]) := by
      rw [bookAll_append, ← h.values_eq]
      exact hvalues
    rw [h.values_eq] at hreply hsame
    rw [← hvalues] at hscript
    rw [← Scheme.runIn_followAll_snoc] at hrun
    refine ⟨o, _, _, _, _, hrun, hleft, hright, hmatched.snoc hreply hsame, ?_⟩
    rw [← hbook]
    exact ih rfl (.nil Tc) hTc hscript hs' t'

/-- Honest parties agree over every script, whatever the order of their turns. -/
theorem agrees (κ : Conduct 𝒮 Randomness) {turns : List Turn}
    (hscript : Admitted κ.Fits ⟨[]⟩ script) (hturns : Interleaves 𝒮.joint [] script turns)
    (hs : κ.Supplied s script) (t : Source) :
    𝒮.Agrees turns [] script ⟨[]⟩ (κ.committer ⟨[]⟩) (κ.receiver ⟨[]⟩) (.fresh s t) :=
  (Backlog.nil ⟨[]⟩).agrees hturns rfl .empty hscript hs t

end Conduct

end TwoParty
