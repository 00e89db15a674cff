/-
Committers and receivers blame their callers for the id of a session, and for nothing else: it is in
use when a commitment is to be made, or unknown when one is to be opened. The proof of a committed
value cannot be refused, for a committer that was set up keeps records that open their commitments,
over any calls of its operations.
-/
import TwoParty.Proofs.Commitment.Disorder
import TwoParty.Proofs.Commitment.Receptions
import TwoParty.Proofs.Sigma.Refusals

namespace TwoParty

/-! ## Refusals of a scheme -/

namespace Scheme

variable {ρ σ Value Commitment Manner : Type}

variable (𝒮 : Scheme ρ σ Value Commitment Manner)

/-- The refusal of a commit: the session is in use. -/
def commitRefusal? (committer : ρ) (id : SessionId) : Option ProtocolError :=
  if (𝒮.sent? committer id).isSome then some (.input (.sessionInUse id)) else none

/-- The refusal to reveal a value: the session is unknown. -/
def revealRefusal? (committer : ρ) (id : SessionId) : Option ProtocolError :=
  if (𝒮.sent? committer id).isSome then none else some (.input (.unknownSession id))

/-- The refusal to receive an opening: the session is unknown. -/
def acceptRefusal? (receiver : σ) (id : SessionId) : Option ProtocolError :=
  if (𝒮.received? receiver id).isSome then none else some (.input (.unknownSession id))

/-- The refusal of a committer's operation. -/
def performRefusal? (committer : ρ) : Operation Value Manner → Option ProtocolError
  | .commit _ id => 𝒮.commitRefusal? committer id
  | .reveal _ id => 𝒮.revealRefusal? committer id
  | .close _ => none

/-- The refusal of a receiver's operation. -/
def receiveRefusal? (receiver : σ) : Reception Manner → Option ProtocolError
  | .accept _ id => 𝒮.acceptRefusal? receiver id
  | _ => none

variable {𝒮}

theorem refuses_perform {committer : ρ}
    (hcommit : ∀ value id, (𝒮.commit value id).Refuses committer (𝒮.commitRefusal? committer id))
    (hreveal : ∀ manner id, (𝒮.reveal manner id).Refuses committer
      (𝒮.revealRefusal? committer id)) (op : Operation Value Manner) :
    (𝒮.perform op).Refuses committer (𝒮.performRefusal? committer op) := by
  cases op with
  | commit value id => exact hcommit value id
  | reveal manner id => exact hreveal manner id
  | close id => exact .succeed rfl

theorem refuses_receive {receiver : σ} (hcommitment : 𝒮.receiveCommitment.Refuses receiver none)
    (haccept : ∀ manner id, (𝒮.accept manner id).Refuses receiver (𝒮.acceptRefusal? receiver id))
    (op : Reception Manner) : (𝒮.receive op).Refuses receiver (𝒮.receiveRefusal? receiver op) := by
  cases op with
  | commitment => exact hcommitment.map _
  | accept manner id => exact (haccept manner id).map _
  | close id => exact .succeed rfl

end Scheme

/-! ## Pedersen commitments -/

namespace Pedersen

variable {G : CyclicGroup}

namespace Committer

/-- The committer uses the generator of the group and a key that is a member, and its records open
their commitments. -/
structure Sound (committer : Committer G) : Prop where
  g_eq : committer.key.g = G.generator
  isMember_h : G.isMember committer.key.h = true
  opens : committer.sessions.All fun _ record =>
    record.commitment = committer.key.commitment record.value record.randomness

theorem Sound.perform {committer : Committer G} (h : committer.Sound)
    {op : Operation G.Scalar Manner} {e : Endpoint}
    {o : Outcome (Except ProtocolError Unit × Committer G)}
    (hrun : (((scheme G).perform op).run committer).run e = some o) : o.result.2.Sound := by
  rcases (bookkeeping committer.role committer.key).perform_cases (T := committer.sessions) hrun
    with ⟨_, id, record, -, -, -, hopens, ho, -⟩ | ⟨id, -, ho⟩ | ⟨ho, -⟩
  · rw [ho]
    exact ⟨h.g_eq, h.isMember_h, h.opens.insert hopens⟩
  · rw [ho]
    exact ⟨h.g_eq, h.isMember_h, h.opens.erase id⟩
  · rw [ho]
    exact h

/-- A committer that was set up stays sound over any calls. -/
theorem Sound.calls {first last : Committer G} (h : first.Sound)
    {calls : List (Call (Operation G.Scalar Manner) Unit (Committer G))}
    (hcalls : Calls (scheme G).perform first calls last) : last.Sound :=
  hcalls.invariant h fun _ _ _ _ hr hrun => hr.perform hrun

theorem blameless_join (role : SigmaRole G) :
    (join role).Blameless fun committer => committer.Sound ∧ committer.sessions = {} := by
  refine .andThen .receive fun message => .bind .judge fun h hh => .andThen .note fun _ => ?_
  exact .pure ⟨⟨rfl, CyclicGroup.isMember_of_decodeMember hh, .empty⟩, rfl⟩

theorem settles_setup (G : CyclicGroup) (config : SigmaConfig) :
    (setup G config).Settles (Attempt.failure? .setup (SigmaRole.new? G config))
      fun committer => committer.Sound ∧ committer.sessions = {} :=
  .configure_last fun role _ => blameless_join role

variable {committer : Committer G} {id : SessionId}

theorem blameless_commit (x : G.Scalar) (hnew : committer.sessions.find? id = none) :
    ((commit x id).runIn committer).Blameless fun p => (p.2.sessions.find? id).isSome = true := by
  rw [runIn_commit _ _ _ hnew]
  refine .andThen .program fun r => .andThen .send fun _ => .andThen .note fun _ => .pure ?_
  rw [find?_opened]
  rfl

theorem blameless_decommit {record : CommitmentRecord G.Scalar G.Scalar G.Element}
    (hfind : committer.sessions.find? id = some record) :
    ((decommit id).runIn committer).Blameless fun _ => True := by
  rw [runIn_decommit _ _ hfind]
  exact .andThen .send fun _ => .andThen .note fun _ => .pure trivial

/-- The witness of the proof is the randomness of the record. -/
theorem blameless_prove (hG : G.PowerLaws) (h : committer.Sound)
    {record : CommitmentRecord G.Scalar G.Scalar G.Element}
    (hfind : committer.sessions.find? id = some record) :
    ((prove id).runIn committer).Blameless fun _ => True := by
  have hholds := Key.holds_openingStatement h.isMember_h hG h.g_eq record.value record.randomness
  rw [← h.opens id record hfind] at hholds
  rw [runIn_prove _ _ hfind]
  refine .andThen .send fun _ => .andThen (committer.role.blameless_prove hholds) fun _ => ?_
  exact .andThen .note fun _ => .pure trivial

theorem run_reveal_none (manner : Manner) (hfind : committer.sessions.find? id = none) :
    ((scheme G).reveal manner id).run committer =
      .done (.error (.input (.unknownSession id)), committer) := by
  have hrecord := run_openRecord_none committer id hfind
  cases manner with
  | opening =>
    show (decommit id).run committer = _
    unfold decommit
    rw [Action.run_bind, hrecord]
    rfl
  | proof =>
    show (prove id).run committer = _
    unfold prove
    rw [Action.run_bind, hrecord]
    rfl

theorem refuses_commit (committer : Committer G) (x : G.Scalar) (id : SessionId) :
    (commit x id).Refuses committer ((scheme G).commitRefusal? committer id) := by
  show Action.Refuses _ _ (if ((committer.sessions.find? id).map _).isSome then _ else _)
  rcases hfind : committer.sessions.find? id with _ | record
  · exact .blameless (atomic_commit x id) (blameless_commit x hfind)
  · exact .fail (run_commit_open x (Option.isSome_of_eq_some hfind))

theorem Sound.refuses_reveal (hG : G.PowerLaws) (h : committer.Sound) (manner : Manner)
    (id : SessionId) : ((scheme G).reveal manner id).Refuses committer
      ((scheme G).revealRefusal? committer id) := by
  show Action.Refuses _ _ (if ((committer.sessions.find? id).map _).isSome then _ else _)
  rcases hfind : committer.sessions.find? id with _ | record
  · exact .fail (run_reveal_none manner hfind)
  · cases manner with
    | opening => exact .blameless (steady_decommit id).atomic (blameless_decommit hfind)
    | proof => exact .blameless (steady_prove id).atomic (blameless_prove hG h hfind)

/-- Bytes are refused as a value if their integer is no exponent. -/
theorem refuses_valueOfBytes (bytes : Bytes) :
    (Attempt.require (valueOfBytes bytes : Except InputError G.Scalar)).Refuses
      (if bytes.bigEndian < G.order then none else some (.input .valueOutOfRange)) := by
  unfold valueOfBytes
  rw [CyclicGroup.exponentOfBytes?_eq]
  by_cases hlt : bytes.bigEndian < G.order
  · rw [dif_pos hlt, if_pos hlt]
    exact .blameless (.pure rfl : Attempt.Blameless _ (· = ⟨bytes.bigEndian, hlt⟩))
  · rw [dif_neg hlt, if_neg hlt]
    exact .fail

end Committer

namespace Receiver

theorem blameless_join (role : SigmaRole G) : (join role).Blameless fun _ => True :=
  .andThen .program fun _ => .andThen .send fun _ => .andThen .note fun _ => .pure trivial

theorem settles_setup (G : CyclicGroup) (config : SigmaConfig) :
    (setup G config).Settles (Attempt.failure? .setup (SigmaRole.new? G config)) fun _ => True :=
  .configure_last fun role _ => blameless_join role

variable (receiver : Receiver G) {id : SessionId}

theorem blameless_receiveCommitment : (receiveCommitment.runIn receiver).Blameless fun p =>
    (p.2.commitments.find? p.1).isSome = true := by
  rw [runIn_receiveCommitment]
  refine .andThen .receive fun message => .andThen .judge fun c => ?_
  refine .ite (fun _ => ?_) fun _ => ?_
  · exact .bind .judge nofun
  · refine .andThen .note fun _ => .pure ?_
    rw [find?_opened]
    rfl

theorem blameless_receiveOpening {c : G.Element} (hfind : receiver.commitments.find? id = some c) :
    ((receiveOpening id).runIn receiver).Blameless fun _ => True := by
  rw [runIn_receiveOpening _ _ hfind]
  refine .andThen .receive fun message => .andThen .judge fun _ => .andThen .judge fun x => ?_
  refine .andThen .judge fun r => .ite (fun _ => ?_) fun _ => ?_
  · exact .andThen .note fun _ => .pure trivial
  · exact .andThen .judge fun _ => .pure trivial

theorem blameless_verifyValue {c : G.Element} (hfind : receiver.commitments.find? id = some c) :
    ((verifyValue id).runIn receiver).Blameless fun _ => True := by
  rw [runIn_verifyValue _ _ hfind]
  refine .andThen .receive fun message => .andThen .judge fun _ => .andThen .judge fun x => ?_
  refine .andThen (receiver.role.blameless_receiveProof _) fun proven => ?_
  refine .ite (fun _ => ?_) fun _ => ?_
  · exact .andThen .note fun _ => .pure trivial
  · exact .andThen .judge fun _ => .pure trivial

theorem refuses_receiveCommitment : receiveCommitment.Refuses receiver none :=
  .blameless atomic_receiveCommitment receiver.blameless_receiveCommitment

theorem refuses_accept (manner : Manner) (id : SessionId) :
    ((scheme G).accept manner id).Refuses receiver ((scheme G).acceptRefusal? receiver id) := by
  show Action.Refuses _ _ (if (receiver.commitments.find? id).isSome then _ else _)
  rcases hfind : receiver.commitments.find? id with _ | c
  · cases manner with
    | opening => exact .fail (run_receiveOpening_none receiver id hfind)
    | proof => exact .fail (run_verifyValue_none receiver id hfind)
  · cases manner with
    | opening =>
      exact .blameless (steady_receiveOpening id).atomic (receiver.blameless_receiveOpening hfind)
    | proof =>
      exact .blameless (steady_verifyValue id).atomic (receiver.blameless_verifyValue hfind)

end Receiver

end Pedersen

/-! ## Equivocal commitments -/

namespace Equivocal

open Pedersen

variable {G : CyclicGroup} {α : Type} {ρ : Type}

theorem run_lift (x : Action ρ α) (role : Equivocal ρ) :
    (lift x).run role = (fun p => (p.1, (⟨p.2⟩ : Equivocal ρ))) <$> x.run role.inner := by
  show Program.bind _ _ = Program.bind _ _
  congr 1

theorem refuses_lift {x : Action ρ α} {role : Equivocal ρ} {refusal? : Option ProtocolError}
    (h : x.Refuses role.inner refusal?) : (lift x).Refuses role refusal? :=
  h.of_run_map (run_lift x role) (fun _ => rfl) fun _ _ hresult => hresult

theorem run_perform (op : Operation G.Scalar Unit) (committer : Equivocal (Committer G)) :
    ((equivocalScheme G).perform op).run committer =
      (lift ((scheme G).perform (inside op))).run committer := by
  cases op <;> rfl

/-- The inner committer goes through calls of its own. -/
theorem sound_calls {first last : Equivocal (Committer G)} (h : first.inner.Sound)
    {calls : List (Call (Operation G.Scalar Unit) Unit (Equivocal (Committer G)))}
    (hcalls : Calls (equivocalScheme G).perform first calls last) : last.inner.Sound := by
  refine hcalls.invariant (I := fun committer => committer.inner.Sound) h ?_
  intro op committer e o hsound hrun
  rw [run_perform, run_lift] at hrun
  have hrun : (((scheme G).perform (inside op)).run committer.inner |>.bind fun p =>
      .done (p.1, (⟨p.2⟩ : Equivocal (Committer G)))).run e = some o := hrun
  rw [Program.run_bind] at hrun
  rcases hinner : (((scheme G).perform (inside op)).run committer.inner).run e with _ | o'
  · rw [hinner] at hrun
    cases hrun
  · rw [hinner] at hrun
    cases hrun
    exact hsound.perform hinner

end Equivocal

/-! ## Hash commitments -/

namespace Hashed

namespace Committer

variable (committer : Committer)

theorem refuses_commit (x : Bytes) (id : SessionId) :
    (commit x id).Refuses committer (scheme.commitRefusal? committer id) := by
  show Action.Refuses _ _ (if ((committer.sessions.find? id).map _).isSome then _ else _)
  rcases hfind : committer.sessions.find? id with _ | record
  · have hrun : ((commit x id).runIn committer).Blameless fun _ => True := by
      rw [runIn_commit _ _ _ hfind]
      exact .andThen .program fun r => .andThen .send fun _ => .andThen .note fun _ =>
        .pure trivial
    exact .blameless (atomic_commit x id) hrun
  · exact .fail (run_commit_open x (Option.isSome_of_eq_some hfind))

theorem refuses_decommit (id : SessionId) :
    (decommit id).Refuses committer (scheme.revealRefusal? committer id) := by
  show Action.Refuses _ _ (if ((committer.sessions.find? id).map _).isSome then _ else _)
  rcases hfind : committer.sessions.find? id with _ | record
  · have hrun : (decommit id).run committer =
        .done (.error (.input (.unknownSession id)), committer) := by
      unfold decommit
      rw [Action.run_state_bind, hfind]
      rfl
    exact .fail hrun
  · have hrun : ((decommit id).runIn committer).Blameless fun _ => True := by
      rw [runIn_decommit _ _ hfind]
      exact .andThen .send fun _ => .andThen .note fun _ => .pure trivial
    exact .blameless (steady_decommit id).atomic hrun

end Committer

namespace Receiver

variable (receiver : Receiver)

theorem refuses_receiveCommitment : receiveCommitment.Refuses receiver none := by
  have hrun : (receiveCommitment.runIn receiver).Blameless fun _ => True := by
    rw [runIn_receiveCommitment]
    refine .andThen .receive fun message => .ite (fun _ => ?_) fun _ => ?_
    · exact .accuse_bind
    · exact .andThen .note fun _ => .pure trivial
  exact .blameless atomic_receiveCommitment hrun

theorem refuses_receiveOpening (id : SessionId) :
    (receiveOpening id).Refuses receiver (scheme.acceptRefusal? receiver id) := by
  show Action.Refuses _ _ (if (receiver.commitments.find? id).isSome then _ else _)
  rcases hfind : receiver.commitments.find? id with _ | c
  · exact .fail (run_receiveOpening_none hfind)
  · have hrun : ((receiveOpening id).runIn receiver).Blameless fun _ => True := by
      rw [runIn_receiveOpening _ _ hfind]
      refine .andThen .receive fun message => ?_
      refine .ite (fun _ => .ite (fun _ => ?_) fun _ => ?_) fun _ => ?_
      · exact .andThen .note fun _ => .pure trivial
      · exact .accuse_bind
      · exact .accuse_bind
    exact .blameless (steady_receiveOpening id).atomic hrun

end Receiver

end Hashed

end TwoParty
