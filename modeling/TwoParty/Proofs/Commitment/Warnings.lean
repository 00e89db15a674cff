/-
Committers and receivers report what they detect, over any calls. A receiver accuses the committer
of every message that it refuses; where a proof does not convince it, the verifier inside may have
warned already, and the accusation follows. The span is the one of the role that was set up, which
no operation changes.
-/
import TwoParty.Proofs.Commitment.Refusals
import TwoParty.Proofs.Sigma.Warnings

namespace TwoParty

/-! ## Operations of a scheme -/

namespace Scheme

variable {ρ σ Value Commitment Manner : Type} {𝒮 : Scheme ρ σ Value Commitment Manner}
  {span : Option String}

theorem reports_perform {I : ρ → Prop}
    (hcommit : ∀ value id, (𝒮.commit value id).Reports I span)
    (hreveal : ∀ manner id, (𝒮.reveal manner id).Reports I span)
    (hforget : ∀ id committer, I committer → I (𝒮.forgetSent id committer))
    (op : Operation Value Manner) :
    (𝒮.perform op).Reports I span := by
  cases op with
  | commit value id => exact hcommit value id
  | reveal manner id => exact hreveal manner id
  | close id => exact .bind .state fun committer h => .put (hforget id committer h)

theorem reports_receive {I : σ → Prop}
    (hcommitment : 𝒮.receiveCommitment.Reports I span)
    (haccept : ∀ manner id, (𝒮.accept manner id).Reports I span)
    (hforget : ∀ id receiver, I receiver → I (𝒮.forgetReceived id receiver))
    (op : Reception Manner) :
    (𝒮.receive op).Reports I span := by
  cases op with
  | commitment => exact hcommitment.map _
  | accept manner id => exact (haccept manner id).map _
  | close id =>
    refine .bind .state fun receiver h => .bind (.put (hforget id receiver h)) fun _ _ => ?_
    exact .pure trivial nofun

end Scheme

/-- A role has the span that was configured. -/
theorem SigmaRole.span_of_new? {G : CyclicGroup} {config : SigmaConfig} {role : SigmaRole G}
    (h : SigmaRole.new? G config = .ok role) : role.span = config.span := by
  obtain ⟨soundness, -, heq⟩ := bind_eq_ok_iff.1 h
  cases heq
  rfl

/-! ## Pedersen commitments -/

namespace Pedersen

variable {G : CyclicGroup} {span : Option String} {warned : Prop}

namespace Committer

theorem tells_join (role : SigmaRole G) :
    (join role).Tells False role.span (fun committer => committer.role.span = role.span)
      fun _ => False := by
  refine .bind .receive fun message _ => .bind .judge fun h _ => .bind (.note rfl) fun _ _ => ?_
  exact .pure rfl nofun

theorem tells_setup (G : CyclicGroup) (config : SigmaConfig) :
    (setup G config).Tells False config.span (fun committer => committer.role.span = config.span)
      fun _ => False := by
  refine .bind .configure fun role hrole => ?_
  rw [← SigmaRole.span_of_new? hrole]
  exact tells_join role

/-- The committer reports under its span, which stays what it is. -/
abbrev Reports {α : Type} (x : Action (Committer G) α) (span : Option String) : Prop :=
  x.Reports (fun committer => committer.role.span = span) span

theorem reports_noteSession (message : String) (id : SessionId) :
    Reports (G := G) (noteSession message id) span :=
  .bind .state fun _ _ => .of (.note rfl)

theorem reports_openRecord (id : SessionId) : Reports (G := G) (openRecord id) span := by
  refine .bind .state fun committer _ => ?_
  split
  · exact .pure trivial nofun
  · exact .of (.fail nofun)

theorem reports_commit (x : G.Scalar) (id : SessionId) : Reports (commit x id) span := by
  refine .bind .state fun committer hspan => .ite (.of (.fail nofun)) ?_
  refine .bind (.of (.quiet Program.quiet_randomScalar)) fun r _ => .bind (.of .send) fun _ _ => ?_
  exact .bind (reports_noteSession _ id) fun _ _ => .put hspan

theorem reports_decommit (id : SessionId) : Reports (G := G) (decommit id) span :=
  .bind (reports_openRecord id) fun _ _ => .bind (.of .send) fun _ _ => reports_noteSession _ id

theorem reports_prove (id : SessionId) : Reports (G := G) (prove id) span := by
  refine .bind (reports_openRecord id) fun record _ => .bind .state fun committer hspan => ?_
  subst hspan
  refine .bind (.of .send) fun _ _ => .bind (.of (committer.role.reports_prove _ _)) fun _ _ => ?_
  exact reports_noteSession _ id

theorem reports_perform (op : Operation G.Scalar Manner) :
    Reports ((scheme G).perform op) span := by
  refine Scheme.reports_perform (fun x id => reports_commit x id) (fun manner id => ?_)
    (fun _ _ h => h) op
  cases manner with
  | opening => exact reports_decommit id
  | proof => exact reports_prove id

end Committer

namespace Receiver

theorem tells_join (role : SigmaRole G) :
    (join role).Tells False role.span (fun receiver => receiver.role.span = role.span)
      fun _ => False := by
  refine .bind (.quiet Program.quiet_randomScalar) fun trapdoor _ => .bind .send fun _ _ => ?_
  exact .bind (.note rfl) fun _ _ => .pure rfl nofun

theorem tells_setup (G : CyclicGroup) (config : SigmaConfig) :
    (setup G config).Tells False config.span (fun receiver => receiver.role.span = config.span)
      fun _ => False := by
  refine .bind .configure fun role hrole => ?_
  rw [← SigmaRole.span_of_new? hrole]
  exact tells_join role

/-- The receiver reports under its span, which stays what it is. -/
abbrev Reports {α : Type} (x : Action (Receiver G) α) (span : Option String) : Prop :=
  x.Reports (fun receiver => receiver.role.span = span) span

theorem reports_noteSession (message : String) (id : SessionId) :
    Reports (G := G) (noteSession message id) span :=
  .bind .state fun _ _ => .of (.note rfl)

theorem reports_judge {α : Type} (check : Except Cheating α) :
    Reports (G := G) (judge check) span := by
  refine .bind .state fun receiver hspan => ?_
  subst hspan
  exact .of (Attempt.Tells.judge.mono fun _ _ => trivial)

/-- What is refused is reported, whether or not there was a warning already. -/
theorem tells_refuse {α : Type} (cause : Cheating) :
    (judge (.error cause : Except Cheating α)).Tells (fun receiver : Receiver G =>
      receiver.role.span = span) warned span (fun _ => True) fun _ => False := by
  refine .bind .state fun receiver hspan => ?_
  subst hspan
  exact .of .judge_error

theorem reports_openCommitment (id : SessionId) : Reports (G := G) (openCommitment id) span := by
  refine .bind .state fun receiver _ => ?_
  split
  · exact .pure trivial nofun
  · exact .of (.fail nofun)

theorem reports_receiveCommitment : Reports (G := G) receiveCommitment span := by
  refine .bind (.of .receive) fun message _ => .bind (reports_judge _) fun c _ => ?_
  refine .bind .state fun receiver hspan => .ite (tells_refuse _) ?_
  refine .bind (.put hspan) fun _ _ => .bind (reports_noteSession _ _) fun _ _ => ?_
  exact .pure trivial nofun

theorem reports_receiveOpening (id : SessionId) : Reports (G := G) (receiveOpening id) span := by
  refine .bind (reports_openCommitment id) fun c _ => .bind (.of .receive) fun message _ => ?_
  refine .bind (reports_judge _) fun _ _ => .bind (reports_judge _) fun x _ => ?_
  refine .bind (reports_judge _) fun r _ => .bind .state fun receiver _ => .ite ?_ (tells_refuse _)
  exact .bind (reports_noteSession _ id) fun _ _ => .pure trivial nofun

/-- If the proof does not convince, the verifier may have warned, and the accusation follows. -/
theorem reports_verifyValue (id : SessionId) : Reports (G := G) (verifyValue id) span := by
  refine .bind (reports_openCommitment id) fun c _ => .bind (.of .receive) fun message _ => ?_
  refine .bind (reports_judge _) fun _ _ => .bind (reports_judge _) fun x _ => ?_
  refine .bind .state fun receiver hspan => ?_
  subst hspan
  refine .bind (.of (receiver.role.tells_receiveProof _)) fun convinced _ => ?_
  cases convinced with
  | true =>
    refine .unwarned (.bind (reports_noteSession _ id) fun _ _ => ?_) nofun
    exact .pure trivial nofun
  | false => exact tells_refuse _

theorem reports_receive (op : Reception Manner) : Reports ((scheme G).receive op) span := by
  refine Scheme.reports_receive reports_receiveCommitment (fun manner id => ?_) (fun _ _ h => h) op
  cases manner with
  | opening => exact reports_receiveOpening id
  | proof => exact reports_verifyValue id

end Receiver

end Pedersen

/-! ## Equivocal commitments -/

namespace Equivocal

open Pedersen

variable {G : CyclicGroup} {span : Option String}

theorem tells_lift {ρ α : Type} {x : Action ρ α} {I : ρ → Prop} {P Denies : α → Prop}
    (h : x.Tells I False span P Denies) :
    (lift x).Tells (fun role => I role.inner) False span P Denies :=
  h.within fun _ _ => rfl

theorem reports_perform (op : Operation G.Scalar Unit) :
    ((equivocalScheme G).perform op).Reports
      (fun committer => committer.inner.role.span = span) span :=
  Scheme.reports_perform (fun x id => tells_lift (Committer.reports_commit x id))
    (fun _ id => tells_lift (Committer.reports_prove id)) (fun _ _ h => h) op

theorem reports_receive (op : Reception Unit) :
    ((equivocalScheme G).receive op).Reports
      (fun receiver => receiver.inner.role.span = span) span :=
  Scheme.reports_receive (tells_lift Receiver.reports_receiveCommitment)
    (fun _ id => tells_lift (Receiver.reports_verifyValue id)) (fun _ _ h => h) op

end Equivocal

/-! ## Hash commitments -/

namespace Hashed

variable {span : Option String}

namespace Committer

/-- The committer reports under its span, which stays what it is. -/
abbrev Reports {α : Type} (x : Action Committer α) (span : Option String) : Prop :=
  x.Reports (fun committer => committer.span = span) span

theorem reports_noteSession (message : String) (id : SessionId) :
    Reports (noteSession message id) span :=
  .bind .state fun _ _ => .of (.note rfl)

theorem reports_commit (x : Bytes) (id : SessionId) : Reports (commit x id) span := by
  refine .bind .state fun committer hspan => .ite (.of (.fail nofun)) ?_
  refine .bind (.of (.quiet Program.quiet_bytes)) fun r _ => .bind (.of .send) fun _ _ => ?_
  exact .bind (reports_noteSession _ id) fun _ _ => .put hspan

theorem reports_decommit (id : SessionId) : Reports (decommit id) span := by
  refine .bind .state fun committer _ => ?_
  split
  · exact .bind (.of .send) fun _ _ => reports_noteSession _ id
  · exact .of (.fail nofun)

theorem reports_perform (op : Operation Bytes Unit) : Reports (scheme.perform op) span :=
  Scheme.reports_perform reports_commit (fun _ id => reports_decommit id) (fun _ _ h => h) op

end Committer

namespace Receiver

/-- The receiver reports under its span, which stays what it is. -/
abbrev Reports {α : Type} (x : Action Receiver α) (span : Option String) : Prop :=
  x.Reports (fun receiver => receiver.span = span) span

theorem reports_noteSession (message : String) (id : SessionId) :
    Reports (noteSession message id) span :=
  .bind .state fun _ _ => .of (.note rfl)

theorem reports_accuse {α : Type} (cause : Cheating) :
    Reports (accuse cause : Action _ α) span := by
  refine .bind .state fun receiver hspan => ?_
  subst hspan
  exact .of .accuse

theorem reports_receiveCommitment : Reports receiveCommitment span := by
  refine .bind (.of .receive) fun message _ => .bind .state fun receiver hspan => ?_
  refine .ite (reports_accuse _) (.bind (.put hspan) fun _ _ => ?_)
  exact .bind (reports_noteSession _ _) fun _ _ => .pure trivial nofun

theorem reports_receiveOpening (id : SessionId) : Reports (receiveOpening id) span := by
  refine .bind .state fun receiver _ => ?_
  split
  · refine .bind (.of .receive) fun message _ => .ite (.ite ?_ ?_) (reports_accuse _)
    · exact .bind (reports_noteSession _ id) fun _ _ => .pure trivial nofun
    · exact reports_accuse _
  · exact .of (.fail nofun)

theorem reports_receive (op : Reception Unit) : Reports (scheme.receive op) span :=
  Scheme.reports_receive reports_receiveCommitment (fun _ id => reports_receiveOpening id)
    (fun _ _ h => h) op

end Receiver

end Hashed

end TwoParty
