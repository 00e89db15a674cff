/-
No role detects cheating silently. Proofs of knowledge run a commitment inside, transfers a proof of
knowledge, all under one span, so what an inner role reports is a report of the outer one. One
failure for cheating is passed on without a report, that of the prover of knowledge whose challenge
has the wrong length; it never happens, for the challenge is read with the right length before.
-/
import TwoParty.Proofs.Commitment.Warnings
import TwoParty.Proofs.Transfer.Refusals

namespace TwoParty

/-! ## Proofs of knowledge -/

namespace SigmaRole

variable {G : CyclicGroup} {k : Nat} (role : SigmaRole G) (S : Statement G k)

/-- A challenge that was read from the encoding of an exponent is responded to. -/
theorem respond_ne_error {x : G.Scalar} {e : Challenge}
    (he : Challenge.ofScalarEncoding role.soundness (G.encodeScalar x) = .ok e)
    (state : ProverState G) (cause : Cheating) : role.respond state e ≠ .error cause := by
  rw [role.respond_eq (Challenge.ofScalarEncoding_eq_ok_iff.1 he).1]
  exact nofun

theorem reports_proveKnowledge (w : G.Scalar) : (role.proveKnowledge S w).Reports role.span := by
  refine (role.reports_announce S w).bind fun (state, a) _ => ?_
  refine (Pedersen.Receiver.tells_join role).bind fun receiver hspan => ?_
  refine (Pedersen.Receiver.reports_receiveCommitment.runIn hspan).bind fun (id, receiver) h => ?_
  refine .ite (fun _ => .bind .send fun _ _ => ?_) fun _ => .accuse
  refine ((Pedersen.Receiver.reports_receiveOpening id).runIn h.2).bind fun (x, receiver) _ => ?_
  refine .bind .judge fun e he => ?_
  split
  · rename_i cause hcause
    exact absurd hcause (role.respond_ne_error he state cause)
  · exact .bind .send fun _ _ => .note rfl

/-- The trapdoor is warned of where it does not belong to the key, and then the proof does not
convince. -/
theorem tells_receiveKnowledge :
    (role.receiveKnowledge S).Tells False role.span (fun _ => True) (· = false) := by
  refine (Pedersen.Committer.tells_join role).bind fun committer hspan => ?_
  refine .bind (.quiet role.quiet_challenge) fun e _ => .bind .require fun x _ => ?_
  refine ((Pedersen.Committer.reports_commit x _).runIn hspan).bind fun ((), committer) h => ?_
  refine .bind .receive fun message _ => .bind .judge fun a _ => ?_
  refine ((Pedersen.Committer.reports_decommit _).runIn h.2).bind fun ((), committer) _ => ?_
  refine .bind .receive fun message _ => .bind .judge fun z _ => .bind .judge fun trapdoor _ => ?_
  refine .ite (fun _ => role.tells_verify S ⟨a, e, z⟩) fun _ => ?_
  exact .bind .warn fun _ _ => .pure trivial fun _ => rfl

end SigmaRole

/-! ## Transfers -/

namespace Transfer

variable {G : CyclicGroup} {kdf : KeyDerivation} {config : Config} {core : Core}

theorem Core.span_of_new? (h : Core.new? kdf config = .ok core) : core.span = config.span := by
  unfold Core.new? at h
  split at h
  · cases h
    rfl
  · cases h

namespace Receiver

theorem tells_setup (G : CyclicGroup) (kdf : KeyDerivation) (config : Config) :
    (setup G kdf config).Tells False config.span (fun receiver => receiver.core.span = config.span)
      fun _ => False := by
  refine .bind .configure fun role hrole => .bind .configure fun core hcore => ?_
  have hspan : role.span = config.span := SigmaRole.span_of_new? hrole
  refine .bind (.quiet fun _ _ => ⟨rfl, trivial⟩) fun (secrets, message) _ => ?_
  refine .bind .send fun _ _ => .bind (hspan ▸ role.reports_proveKnowledge _ _) fun _ _ => ?_
  exact .bind (.note rfl) fun _ _ => .pure (Core.span_of_new? hcore) nofun

theorem reports_transfer (receiver : Receiver G) (choice : Bool) :
    (receiver.transfer choice).Reports receiver.core.span := by
  have hcore : (Attempt.of (receiver.core.request receiver.bases choice)).Tells False
      receiver.core.span (fun p => p.1.core = receiver.core) fun _ => False :=
    .quiet_ensures (fun _ => trivial) fun _ =>
      Program.ensures_bind.2 (.intro (fun _ => trivial) fun _ _ => .of_run rfl rfl)
  refine hcore.bind fun (pending, request) hpending => ?_
  rw [← hpending]
  refine .bind .send fun _ _ => .bind .receive fun answer _ => .bind .judge fun chosen _ => ?_
  exact .bind .require fun output _ => .bind (.note rfl) fun _ _ => .pure trivial nofun

end Receiver

theorem Core.reports_maskFor (core : Core) (request bases : G.Element × G.Element) (x : Bytes) :
    (core.maskFor request bases x).Reports core.span := by
  refine .bind (.quiet Program.quiet_randomScalar) fun s _ => ?_
  refine .bind (.quiet Program.quiet_randomScalar) fun t _ => .bind .require fun c _ => ?_
  exact .pure trivial nofun

theorem Core.reports_answer (core : Core) (bases : Bases G) (request : RequestMessage)
    (x0 x1 : Bytes) :
    (core.answer bases request x0 x1).Reports core.span := by
  refine .bind .require fun _ _ => .bind .judge fun request _ => ?_
  refine .bind (core.reports_maskFor _ _ x0) fun (u0, c0) _ => ?_
  refine .bind (core.reports_maskFor _ _ x1) fun (u1, c1) _ => .bind (.note rfl) fun _ _ => ?_
  exact .pure trivial nofun

namespace Sender

theorem tells_setup (G : CyclicGroup) (kdf : KeyDerivation) (config : Config) :
    (setup G kdf config).Tells False config.span (fun sender => sender.core.span = config.span)
      fun _ => False := by
  refine .bind .configure fun role hrole => .bind .configure fun core hcore => ?_
  have hspan : role.span = config.span := SigmaRole.span_of_new? hrole
  have hcorespan := Core.span_of_new? hcore
  rw [hcorespan]
  refine .bind .receive fun message _ => .bind .judge fun bases _ => ?_
  refine .bind (hspan ▸ role.tells_receiveKnowledge _) fun convinced _ => ?_
  cases convinced with
  | true =>
    exact .unwarned (.bind (.note rfl) fun _ _ => .pure hcorespan nofun) nofun
  | false => exact .accuse

theorem reports_transfer (sender : Sender G) (x0 x1 : Bytes) :
    (sender.transfer x0 x1).Reports sender.core.span := by
  refine .bind .require fun _ _ => .bind .receive fun request _ => ?_
  exact .bind (sender.core.reports_answer sender.bases request x0 x1) fun _ _ => .send

end Sender

end Transfer

/-! ## Every role -/

/-- After any calls from the state every operation is candid under the span. -/
def AlwaysCandid {Op Reply ρ : Type} (perform : Op → Action ρ Reply) (first : ρ)
    (span : Option String) : Prop :=
  ∀ calls last, Calls perform first calls last →
    ∀ op, (perform op).Candid last span fun _ => False

theorem AlwaysCandid.of_reports {Op Reply ρ : Type} {perform : Op → Action ρ Reply} {first : ρ}
    {span : Option String} {I : ρ → Prop}
    (h : ∀ op, (perform op).Reports I span) (hfirst : I first) :
    AlwaysCandid perform first span :=
  fun _ _ hcalls op => (h op).candid (hcalls.keeps h hfirst)

/-- The roles of proofs report what they detect. A verifier denies a proof by the value false. -/
structure SigmaRole.Reporting (G : CyclicGroup) (config : SigmaConfig) : Prop where
  new : (Attempt.configure (SigmaRole.new? G config)).Candid config.span fun _ => False
  prove {k : Nat} {role : SigmaRole G} : SigmaRole.new? G config = .ok role →
    ∀ (S : Statement G k) w, (role.prove S w).Candid config.span fun _ => False
  receiveProof {k : Nat} {role : SigmaRole G} : SigmaRole.new? G config = .ok role →
    ∀ S : Statement G k, (role.receiveProof S).Candid config.span (· = false)
  proveKnowledge {k : Nat} {role : SigmaRole G} : SigmaRole.new? G config = .ok role →
    ∀ (S : Statement G k) w, (role.proveKnowledge S w).Candid config.span fun _ => False
  receiveKnowledge {k : Nat} {role : SigmaRole G} : SigmaRole.new? G config = .ok role →
    ∀ S : Statement G k, (role.receiveKnowledge S).Candid config.span (· = false)

theorem SigmaRole.reporting (G : CyclicGroup) (config : SigmaConfig) :
    SigmaRole.Reporting G config where
  new := Attempt.Tells.configure.candid
  prove h S w := span_of_new? h ▸ (reports_prove _ S w).candid
  receiveProof h S := span_of_new? h ▸ (tells_receiveProof _ S).candid
  proveKnowledge h S w := span_of_new? h ▸ (reports_proveKnowledge _ S w).candid
  receiveKnowledge h S := span_of_new? h ▸ (tells_receiveKnowledge _ S).candid

/-- The parties of Pedersen commitments report what they detect, from their setups on, and so do
those of equivocal ones, whatever calls came before they were made equivocal. -/
structure Pedersen.Reporting (G : CyclicGroup) (config : SigmaConfig) : Prop where
  committerSetup : (Committer.setup G config).Candid config.span fun _ => False
  receiverSetup : (Receiver.setup G config).Candid config.span fun _ => False
  perform {e : Endpoint} {o : Outcome (Except ProtocolError (Committer G))}
    {first : Committer G} : (Committer.setup G config).run.run e = some o → o.result = .ok first →
      AlwaysCandid (scheme G).perform first config.span
  receive {e : Endpoint} {o : Outcome (Except ProtocolError (Receiver G))} {first : Receiver G} :
    (Receiver.setup G config).run.run e = some o → o.result = .ok first →
      AlwaysCandid (scheme G).receive first config.span
  performEquivocal {e : Endpoint} {o : Outcome (Except ProtocolError (Committer G))}
    {first last : Committer G}
    {calls : List (Call (Operation G.Scalar Manner) Unit (Committer G))} :
    (Committer.setup G config).run.run e = some o → o.result = .ok first →
      Calls (scheme G).perform first calls last →
        AlwaysCandid (equivocalScheme G).perform ⟨last⟩ config.span
  receiveEquivocal {e : Endpoint} {o : Outcome (Except ProtocolError (Receiver G))}
    {first last : Receiver G}
    {calls : List (Call (Reception Manner) (Reply G.Scalar) (Receiver G))} :
    (Receiver.setup G config).run.run e = some o → o.result = .ok first →
      Calls (scheme G).receive first calls last →
        AlwaysCandid (equivocalScheme G).receive ⟨last⟩ config.span
  valueOfBytes (committer : Committer G) (bytes : Bytes) :
    (Attempt.require (CommitterRole.valueOfBytes committer bytes)).Candid config.span
      fun _ => False
  sampleValue (committer : Committer G) :
    (Attempt.of (CommitterRole.sampleValue committer)).Candid config.span fun _ => False
  valueOfBytesEquivocal (committer : Equivocal (Committer G)) (bytes : Bytes) :
    (Attempt.require (CommitterRole.valueOfBytes committer bytes)).Candid config.span
      fun _ => False
  sampleValueEquivocal (committer : Equivocal (Committer G)) :
    (Attempt.of (CommitterRole.sampleValue committer)).Candid config.span fun _ => False

theorem Pedersen.reporting (G : CyclicGroup) (config : SigmaConfig) :
    Pedersen.Reporting G config where
  committerSetup := (Committer.tells_setup G config).candid
  receiverSetup := (Receiver.tells_setup G config).candid
  perform hrun ho :=
    .of_reports Committer.reports_perform ((Committer.tells_setup G config).value hrun ho)
  receive hrun ho :=
    .of_reports Receiver.reports_receive ((Receiver.tells_setup G config).value hrun ho)
  performEquivocal hrun ho hcalls := .of_reports Equivocal.reports_perform
    (hcalls.keeps Committer.reports_perform ((Committer.tells_setup G config).value hrun ho))
  receiveEquivocal hrun ho hcalls := .of_reports Equivocal.reports_receive
    (hcalls.keeps Receiver.reports_receive ((Receiver.tells_setup G config).value hrun ho))
  valueOfBytes _ _ := Attempt.Tells.require.candid
  sampleValue _ := (Attempt.Tells.quiet Program.quiet_randomScalar).candid
  valueOfBytesEquivocal _ _ := Attempt.Tells.require.candid
  sampleValueEquivocal _ := (Attempt.Tells.quiet Program.quiet_randomScalar).candid

/-- The parties of hash commitments report what they detect, from the beginning on. -/
structure Hashed.Reporting (hash : Shake) (span : Option String) : Prop where
  perform : AlwaysCandid scheme.perform { hash, span } span
  receive : AlwaysCandid scheme.receive { hash, span } span
  valueOfBytes (committer : Committer) (bytes : Bytes) :
    (Attempt.require (CommitterRole.valueOfBytes committer bytes)).Candid span fun _ => False
  sampleValue (committer : Committer) :
    (Attempt.of (CommitterRole.sampleValue committer)).Candid span fun _ => False

theorem Hashed.reporting (hash : Shake) (span : Option String) : Hashed.Reporting hash span where
  perform := .of_reports Committer.reports_perform rfl
  receive := .of_reports Receiver.reports_receive rfl
  valueOfBytes _ _ := Attempt.Tells.require.candid
  sampleValue _ := (Attempt.Tells.quiet Program.quiet_bytes).candid

/-- The parties of transfers report what they detect, in their setups and in every transfer after
them. -/
structure Transfer.Reporting (G : CyclicGroup) (kdf : KeyDerivation) (config : Config) : Prop where
  receiverSetup : (Receiver.setup G kdf config).Candid config.span fun _ => False
  senderSetup : (Sender.setup G kdf config).Candid config.span fun _ => False
  receiverTransfer {e : Endpoint} {o : Outcome (Except ProtocolError (Receiver G))}
    {receiver : Receiver G} : (Receiver.setup G kdf config).run.run e = some o →
      o.result = .ok receiver →
        ∀ choice, (receiver.transfer choice).Candid config.span fun _ => False
  senderTransfer {e : Endpoint} {o : Outcome (Except ProtocolError (Sender G))}
    {sender : Sender G} : (Sender.setup G kdf config).run.run e = some o →
      o.result = .ok sender →
        ∀ x0 x1, (sender.transfer x0 x1).Candid config.span fun _ => False

theorem Transfer.reporting (G : CyclicGroup) (kdf : KeyDerivation) (config : Config) :
    Transfer.Reporting G kdf config where
  receiverSetup := (Receiver.tells_setup G kdf config).candid
  senderSetup := (Sender.tells_setup G kdf config).candid
  receiverTransfer hrun ho choice :=
    (Receiver.tells_setup G kdf config).value hrun ho ▸ (Receiver.reports_transfer _ choice).candid
  senderTransfer hrun ho x0 x1 :=
    (Sender.tells_setup G kdf config).value hrun ho ▸ (Sender.reports_transfer _ x0 x1).candid

/-- No cheating is detected silently. Whatever frames come in and whatever was called before, an
operation of any role that fails for cheating has warned of it under the configured span, with the
text of the error; and no operation warns unless it fails so or denies a proof. -/
theorem cheating_reported :
    (∀ G config, SigmaRole.Reporting G config) ∧ (∀ G config, Pedersen.Reporting G config) ∧
    (∀ hash span, Hashed.Reporting hash span) ∧
    ∀ G kdf config, Transfer.Reporting G kdf config := by
  refine ⟨fun G config => ?_, fun G config => ?_, fun hash span => ?_, fun G kdf config => ?_⟩
  · exact SigmaRole.reporting G config
  · exact Pedersen.reporting G config
  · exact Hashed.reporting hash span
  · exact Transfer.reporting G kdf config

open Pedersen CyclicGroup in
/-- A prover that is challenged with two bytes instead of one reports it, and so does a receiver to
which a second commitment comes under an open session. -/
theorem cheating_reported_order281 :
    (∃ o, (SigmaRole.order281.prove SigmaRole.seven (scalar _ 7)).run.run
        ((Endpoint.fresh (.constant 1)).deliver [Wire.write (Challenge.mk [1, 2])]) = some o ∧
      o.result = .error (.cheating (.challengeLength 1 2)) ∧
      ∃ event ∈ o.events, event.Reports none (.challengeLength 1 2)) ∧
    ∃ start o first calls last o',
      (Receiver.setup Residues.order281.group ⟨8, none⟩).run.run start = some o ∧
      o.result = .ok first ∧ Calls (scheme _).receive first calls last ∧
      (((scheme _).receive .commitment).run last).run (atCommitment 6) = some o' ∧
      o'.result.1 = .error (.cheating (.duplicateCommitment 1)) ∧
      ∃ event ∈ o'.events, event.Reports none (.duplicateCommitment 1) := by
  obtain ⟨hproofs, hcommitments, -⟩ := cheating_reported
  constructor
  · have hnew : SigmaRole.new? Residues.order281.group ⟨8, none⟩ = .ok .order281 := rfl
    have hseven : SigmaRole.seven.holds (scalar _ 7) = true := Statement.holds_iff.2 (by decide)
    have hprove : ∃ o, (SigmaRole.order281.prove SigmaRole.seven (scalar _ 7)).run.run
        ((Endpoint.fresh (.constant 1)).deliver [Wire.write (Challenge.mk [1, 2])]) = some o ∧
        o.result = .error (.cheating (.challengeLength 1 2)) := by
      unfold SigmaRole.prove SigmaRole.announce
      rw [if_pos hseven]
      exact ⟨_, rfl, rfl⟩
    obtain ⟨o, hrun, ho⟩ := hprove
    exact ⟨o, hrun, ho, ((hproofs _ _).prove hnew _ _ _ _ hrun).reported _ ho⟩
  · have hrun : (Receiver.setup Residues.order281.group ⟨8, none⟩).run.run
        (.fresh (.constant 1)) = some _ := rfl
    have h0 : Calls (scheme Residues.order281.group).receive
        (Receiver.joined .order281 (scalar _ 257)) [] _ := .nil
    have h1 := h0.snoc .commitment (atCommitment 5) rfl
    have h2 := (hcommitments _ _).receive hrun rfl _ _ h1 .commitment (atCommitment 6) _ rfl
    exact ⟨_, _, _, _, _, _, hrun, rfl, h1, rfl, rfl, h2.reported _ rfl⟩

end TwoParty
