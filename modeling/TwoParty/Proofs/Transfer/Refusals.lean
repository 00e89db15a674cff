/-
Local failures of every role, down to the transfers that use the others. Proofs of knowledge run a
commitment inside, transfers a proof of knowledge; the checks of the inner roles are all passed
whatever the other party sends, so once the first frame is under way no caller is blamed any more.
What remains are the refusals that each operation can give by itself, at once.
-/
import TwoParty.Proofs.Commitment.Refusals
import TwoParty.Proofs.Transfer.Selection

namespace TwoParty

open CyclicGroup

/-! ## Proofs of knowledge -/

namespace SigmaRole

variable {G : CyclicGroup} {k : Nat} (role : SigmaRole G) {S : Statement G k} {w : G.Scalar}

theorem blameless_challenge : (Attempt.of role.challenge).Blameless fun e =>
    e.bytes.length = role.soundness.challengeLength :=
  .of fun _ => .of_run rfl (Source.length_peek _ _)

theorem blameless_proveKnowledge (h : S.holds w = true) :
    (role.proveKnowledge S w).Blameless fun _ => True := by
  refine (role.blameless_announce h).andThen fun (state, a) => ?_
  refine (Pedersen.Receiver.blameless_join role).andThen fun receiver => ?_
  refine receiver.blameless_receiveCommitment.bind fun (id, receiver) hopen => ?_
  refine .ite (fun _ => .andThen .send fun _ => ?_) fun _ => .accuse
  -- the session that the verifier has opened is the one that it reveals
  obtain ⟨c, hfind⟩ := Option.isSome_iff_exists.1 hopen
  refine (receiver.blameless_receiveOpening hfind).andThen fun (x, receiver) => ?_
  refine .andThen .judge fun e => ?_
  split
  · exact .fail rfl
  · exact .andThen .send fun _ => .note

theorem refuses_proveKnowledge (S : Statement G k) (w : G.Scalar) :
    (role.proveKnowledge S w).Refuses (S.refusal? w) := by
  unfold Statement.refusal?
  split
  · rename_i h
    exact .blameless (role.blameless_proveKnowledge h)
  · rename_i h
    unfold proveKnowledge
    rw [role.announce_eq_fail h]
    exact .fail

/-- The bytes of a challenge are a value, and its session is new and then open. -/
theorem blameless_receiveKnowledge (S : Statement G k) :
    (role.receiveKnowledge S).Blameless fun _ => True := by
  refine (Pedersen.Committer.blameless_join role).bind fun committer hjoined => ?_
  refine role.blameless_challenge.bind fun e he => ?_
  rw [Challenge.valueOfBytes_eq he, Attempt.require_ok, pure_bind]
  have hnew : committer.sessions.find? challengeSession = none := by rw [hjoined.2]; rfl
  refine (Pedersen.Committer.blameless_commit _ hnew).bind fun ((), committer) hopen => ?_
  obtain ⟨record, hfind⟩ := Option.isSome_iff_exists.1 hopen
  refine .andThen .receive fun message => .andThen .judge fun a => ?_
  refine (Pedersen.Committer.blameless_decommit hfind).andThen fun ((), committer) => ?_
  refine .andThen .receive fun message => .andThen .judge fun z => ?_
  refine .andThen .judge fun trapdoor => ?_
  exact .ite (fun _ => .program) fun _ => .andThen .note fun _ => .pure trivial

end SigmaRole

/-! ## Transfers -/

namespace Transfer

variable {G : CyclicGroup} {kdf : KeyDerivation} {config : Config} {core : Core}

/-- The keys for all payloads that are admitted can be made. -/
structure Core.Sound (core : Core) : Prop where
  faithful : core.kdf.Faithful
  maxPayload_le : core.maxPayload ≤ core.kdf.maxLength

theorem Core.sound_of_new? (hkdf : kdf.Faithful) (h : Core.new? kdf config = .ok core) :
    core.Sound := by
  unfold Core.new? at h
  split at h
  · rename_i hle
    cases h
    exact ⟨hkdf, hle⟩
  · cases h

theorem Core.Sound.blameless_mask (h : core.Sound) (seed : G.Element) {payload : Bytes}
    (hlen : payload.length ≤ core.maxPayload) :
    (Attempt.require (mask core.kdf seed payload)).Blameless fun _ => True := by
  obtain ⟨key, hkey, -⟩ :=
    h.faithful.derive_ok (G.encode seed) (hlen.trans h.maxPayload_le)
  have hmask : mask core.kdf seed payload = .ok (payload.xor key) := by
    unfold mask
    rw [hkey]
    rfl
  rw [hmask]
  exact .pure trivial

/-! ### Setting up -/

theorem Core.blameless_chooseBases (core : Core) (hG : G.PowerLaws) :
    (Attempt.of (core.chooseBases (G := G))).Blameless fun p =>
      p.1.bases.statement.holds p.1.alpha = true := by
  refine .of fun e => Program.ensures_bind.2 (.intro (fun _ => trivial) fun o _ => ?_)
  refine Program.ensures_bind.2 (.intro (fun _ => trivial) fun o' _ => ?_)
  exact .of_run rfl (Bases.holds_ofExponents o'.result hG o.result)

/-- The refusal of the parameters of either party. -/
def setupRefusal? (G : CyclicGroup) (kdf : KeyDerivation) (config : Config) :
    Option ProtocolError :=
  (Attempt.failure? .setup (SigmaRole.new? G config.sigma)).or
    (Attempt.failure? .setup (Core.new? kdf config))

/-- The receiver proves a statement that it has made true. -/
theorem Receiver.settles_setup (hG : G.PowerLaws) (hkdf : kdf.Faithful) (config : Config) :
    (Receiver.setup G kdf config).Settles (setupRefusal? G kdf config)
      fun receiver => receiver.core.Sound := by
  refine .configure fun role _ => .configure_last fun core hcore => ?_
  refine (core.blameless_chooseBases hG).bind fun (secrets, message) hholds => ?_
  refine .andThen .send fun _ => (role.blameless_proveKnowledge hholds).andThen fun _ => ?_
  exact .andThen .note fun _ => .pure (Core.sound_of_new? hkdf hcore)

theorem Sender.settles_setup (G : CyclicGroup) (hkdf : kdf.Faithful) (config : Config) :
    (Sender.setup G kdf config).Settles (setupRefusal? G kdf config)
      fun sender => sender.core.Sound := by
  refine .configure fun role _ => .configure_last fun core hcore => ?_
  refine .andThen .receive fun message => .andThen .judge fun bases => ?_
  refine (role.blameless_receiveKnowledge _).andThen fun convinced => .ite (fun _ => ?_) fun _ => ?_
  · exact .andThen .note fun _ => .pure (Core.sound_of_new? hkdf hcore)
  · exact .accuse

/-! ### One transfer -/

theorem Core.blameless_request (core : Core) (bases : Bases G) (choice : Bool) :
    (Attempt.of (core.request bases choice)).Blameless fun p => p.1.core = core :=
  .of fun _ => Program.ensures_bind.2 (.intro (fun _ => trivial) fun _ _ => .of_run rfl rfl)

theorem Pending.of_choose {pending : Pending G} {message : AnswerMessage} {chosen : Chosen G}
    (h : pending.choose message = .ok chosen) :
    chosen.core = pending.core ∧ chosen.c.length ≤ pending.core.maxPayload := by
  rw [Pending.choose_eq, bind_eq_ok_iff] at h
  obtain ⟨answer, hread, hchosen⟩ := h
  cases hchosen
  have hanswer := AnswerMessage.read_eq_ok_iff.1 hread
  refine ⟨rfl, ?_⟩
  unfold Pending.chosen Answer.half
  split
  · exact hanswer.length_eq.symm.trans_le hanswer.length_le
  · exact hanswer.length_le

theorem Receiver.refuses_transfer {receiver : Receiver G} (h : receiver.core.Sound)
    (choice : Bool) : (receiver.transfer choice).Refuses none := by
  refine .blameless (P := fun _ => True) ?_
  refine (receiver.core.blameless_request _ choice).bind fun (pending, request) hcore => ?_
  refine .andThen .send fun _ => .andThen .receive fun answer => ?_
  refine .bind .judge fun chosen hchosen => ?_
  obtain ⟨hchosencore, hlen⟩ := Pending.of_choose hchosen
  have hcore : chosen.core = receiver.core := hchosencore.trans hcore
  rw [← hchosencore, hcore] at hlen
  unfold Chosen.unmask
  rw [hcore]
  refine (h.blameless_mask _ hlen).andThen fun output => ?_
  exact .andThen .note fun _ => .pure trivial

theorem Core.Sound.blameless_maskFor (h : core.Sound) (request bases : G.Element × G.Element)
    {x : Bytes} (hlen : x.length ≤ core.maxPayload) :
    (core.maskFor request bases x).Blameless fun _ => True := by
  refine .andThen .program fun s => .andThen .program fun t => ?_
  exact (h.blameless_mask _ hlen).andThen fun _ => .pure trivial

theorem Sender.refuses_transfer {sender : Sender G} (h : sender.core.Sound) (x0 x1 : Bytes) :
    (sender.transfer x0 x1).Refuses (Attempt.failure? .input (sender.core.checkInputs x0 x1)) := by
  refine .require (P := fun _ => True) fun () hinputs => .andThen .receive fun request => ?_
  obtain ⟨hlen, hlimit⟩ := checkInputs_iff.1 hinputs
  refine .andThen (P := fun _ => True) ?_ fun answer => .send
  -- the strings are checked once more with the request at hand
  unfold Core.answer
  rw [hinputs, Attempt.require_ok, pure_bind]
  refine .andThen .judge fun request => (h.blameless_maskFor _ _ hlimit).andThen fun first => ?_
  refine (h.blameless_maskFor _ _ (hlen ▸ hlimit)).andThen fun second => ?_
  exact .andThen .note fun _ => .pure trivial

end Transfer

/-! ## Every role -/

/-- What provers and verifiers refuse: parameters, and a witness of a statement that it does not
satisfy. -/
structure SigmaRole.Refusals (G : CyclicGroup) : Prop where
  new (config : SigmaConfig) : (Attempt.configure (SigmaRole.new? G config)).Refuses
    (Attempt.failure? .setup (SigmaRole.new? G config))
  /-- A role inside another one is built from parameters that were admitted already. -/
  again {config : SigmaConfig} {role : SigmaRole G} : SigmaRole.new? G config = .ok role →
    ∀ span, SigmaRole.new? G { config with span } = .ok { role with span }
  prove {k : Nat} (role : SigmaRole G) (S : Statement G k) (w : G.Scalar) :
    (role.prove S w).Refuses (S.refusal? w)
  receiveProof {k : Nat} (role : SigmaRole G) (S : Statement G k) :
    (role.receiveProof S).Refuses none
  proveKnowledge {k : Nat} (role : SigmaRole G) (S : Statement G k) (w : G.Scalar) :
    (role.proveKnowledge S w).Refuses (S.refusal? w)
  receiveKnowledge {k : Nat} (role : SigmaRole G) (S : Statement G k) :
    (role.receiveKnowledge S).Refuses none

theorem SigmaRole.refusals (G : CyclicGroup) : SigmaRole.Refusals G where
  new _ := .configure _
  again h span := new?_again _ h span
  prove := refuses_prove
  receiveProof role S := .blameless (role.blameless_receiveProof S)
  proveKnowledge := refuses_proveKnowledge
  receiveKnowledge role S := .blameless (role.blameless_receiveKnowledge S)

/-- What the parties of Pedersen commitments refuse, and those of the equivocal ones made of them:
parameters, bytes that are no value, and sessions. The committers have gone through any calls since
they were set up; the receivers may be in any state. -/
structure Pedersen.Refusals (G : CyclicGroup) : Prop where
  committerSetup (config : SigmaConfig) : (Pedersen.Committer.setup G config).Refuses
    (Attempt.failure? .setup (SigmaRole.new? G config))
  receiverSetup (config : SigmaConfig) : (Pedersen.Receiver.setup G config).Refuses
    (Attempt.failure? .setup (SigmaRole.new? G config))
  valueOfBytes (committer : Pedersen.Committer G) (bytes : Bytes) :
    (Attempt.require (CommitterRole.valueOfBytes committer bytes)).Refuses
      (if bytes.bigEndian < G.order then none else some (.input .valueOutOfRange))
  perform {config : SigmaConfig} {e : Endpoint}
    {o : Outcome (Except ProtocolError (Pedersen.Committer G))}
    {first last : Pedersen.Committer G}
    {calls : List (Call (Operation G.Scalar Manner) Unit (Pedersen.Committer G))} :
    (Pedersen.Committer.setup G config).run.run e = some o → o.result = .ok first →
      Calls (Pedersen.scheme G).perform first calls last → ∀ op,
        ((Pedersen.scheme G).perform op).Refuses last ((Pedersen.scheme G).performRefusal? last op)
  receive (receiver : Pedersen.Receiver G) (op : Reception Manner) :
    ((Pedersen.scheme G).receive op).Refuses receiver
      ((Pedersen.scheme G).receiveRefusal? receiver op)
  valueOfBytesEquivocal (committer : Equivocal (Pedersen.Committer G)) (bytes : Bytes) :
    (Attempt.require (CommitterRole.valueOfBytes committer bytes)).Refuses
      (if bytes.bigEndian < G.order then none else some (.input .valueOutOfRange))
  performEquivocal {config : SigmaConfig} {e : Endpoint}
    {o : Outcome (Except ProtocolError (Pedersen.Committer G))} {first : Pedersen.Committer G}
    {last : Equivocal (Pedersen.Committer G)}
    {calls : List (Call (Operation G.Scalar Unit) Unit (Equivocal (Pedersen.Committer G)))} :
    (Pedersen.Committer.setup G config).run.run e = some o → o.result = .ok first →
      Calls (Pedersen.equivocalScheme G).perform ⟨first⟩ calls last → ∀ op,
        ((Pedersen.equivocalScheme G).perform op).Refuses last
          ((Pedersen.equivocalScheme G).performRefusal? last op)
  receiveEquivocal (receiver : Equivocal (Pedersen.Receiver G)) (op : Reception Unit) :
    ((Pedersen.equivocalScheme G).receive op).Refuses receiver
      ((Pedersen.equivocalScheme G).receiveRefusal? receiver op)

theorem Pedersen.refusals {G : CyclicGroup} (hG : G.PowerLaws) : Pedersen.Refusals G where
  committerSetup config := (Committer.settles_setup G config).toRefuses
  receiverSetup config := (Receiver.settles_setup G config).toRefuses
  valueOfBytes _ bytes := Committer.refuses_valueOfBytes bytes
  perform hrun ho hcalls := by
    obtain ⟨hfirst, -⟩ := (Committer.settles_setup G _).value _ _ _ hrun ho
    have hlast := hfirst.calls hcalls
    exact Scheme.refuses_perform (Committer.refuses_commit _) (hlast.refuses_reveal hG)
  receive receiver := Scheme.refuses_receive receiver.refuses_receiveCommitment
    receiver.refuses_accept
  valueOfBytesEquivocal _ bytes := Committer.refuses_valueOfBytes bytes
  performEquivocal hrun ho hcalls := by
    obtain ⟨hfirst, -⟩ := (Committer.settles_setup G _).value _ _ _ hrun ho
    have hlast := Equivocal.sound_calls hfirst hcalls
    exact Scheme.refuses_perform
      (fun x id => Equivocal.refuses_lift (Committer.refuses_commit _ x id))
      fun _ id => Equivocal.refuses_lift (hlast.refuses_reveal hG .proof id)
  receiveEquivocal receiver := Scheme.refuses_receive
    (Equivocal.refuses_lift receiver.inner.refuses_receiveCommitment)
    fun _ id => Equivocal.refuses_lift (receiver.inner.refuses_accept .proof id)

/-- What the parties of hash commitments refuse, in any state: sessions. -/
structure Hashed.Refusals : Prop where
  valueOfBytes (committer : Hashed.Committer) (bytes : Bytes) :
    (Attempt.require (CommitterRole.valueOfBytes committer bytes)).Refuses none
  perform (committer : Hashed.Committer) (op : Operation Bytes Unit) :
    (Hashed.scheme.perform op).Refuses committer (Hashed.scheme.performRefusal? committer op)
  receive (receiver : Hashed.Receiver) (op : Reception Unit) :
    (Hashed.scheme.receive op).Refuses receiver (Hashed.scheme.receiveRefusal? receiver op)

theorem Hashed.refusals : Hashed.Refusals where
  valueOfBytes _ bytes := .blameless (.pure rfl : Attempt.Blameless _ (· = bytes))
  perform committer := Scheme.refuses_perform committer.refuses_commit
    fun _ id => committer.refuses_decommit id
  receive receiver := Scheme.refuses_receive receiver.refuses_receiveCommitment
    fun _ id => receiver.refuses_receiveOpening id

/-- What the parties of transfers refuse: parameters, and strings that do not belong together or
are too long. -/
structure Transfer.Refusals (G : CyclicGroup) (kdf : KeyDerivation) (config : Config) : Prop where
  receiverSetup : (Receiver.setup G kdf config).Refuses (setupRefusal? G kdf config)
  senderSetup : (Sender.setup G kdf config).Refuses (setupRefusal? G kdf config)
  receiverTransfer {e : Endpoint} {o : Outcome (Except ProtocolError (Receiver G))}
    {receiver : Receiver G} : (Receiver.setup G kdf config).run.run e = some o →
      o.result = .ok receiver → ∀ choice, (receiver.transfer choice).Refuses none
  senderTransfer {e : Endpoint} {o : Outcome (Except ProtocolError (Sender G))}
    {sender : Sender G} : (Sender.setup G kdf config).run.run e = some o →
      o.result = .ok sender → ∀ x0 x1, (sender.transfer x0 x1).Refuses
        (Attempt.failure? .input (sender.core.checkInputs x0 x1))

theorem Transfer.refusals {G : CyclicGroup} (hG : G.PowerLaws) {kdf : KeyDerivation}
    (hkdf : kdf.Faithful) (config : Config) : Transfer.Refusals G kdf config where
  receiverSetup := (Receiver.settles_setup hG hkdf config).toRefuses
  senderSetup := (Sender.settles_setup G hkdf config).toRefuses
  receiverTransfer hrun ho :=
    Receiver.refuses_transfer ((Receiver.settles_setup hG hkdf config).value _ _ _ hrun ho)
  senderTransfer hrun ho :=
    Sender.refuses_transfer ((Sender.settles_setup G hkdf config).value _ _ _ hrun ho)

/-- Failures for which the caller is to blame come at once or not at all. For every operation of
every role the refusal is named that it gives; it then comes before anything is drawn, sent,
received or stored, whatever comes from outside, and without it the operation never blames its
caller, however deep the roles inside it and whatever the other party sends. -/
theorem refusals_at_once :
    (∀ G : CyclicGroup, SigmaRole.Refusals G) ∧
    (∀ G : CyclicGroup, G.PowerLaws → Pedersen.Refusals G) ∧
    Hashed.Refusals ∧
    ∀ G : CyclicGroup, G.PowerLaws → ∀ kdf : KeyDerivation, kdf.Faithful → ∀ config,
      Transfer.Refusals G kdf config := by
  refine ⟨fun G => ?_, fun G hG => ?_, ?_, fun G hG kdf hkdf config => ?_⟩
  · exact SigmaRole.refusals G
  · exact Pedersen.refusals hG
  · exact Hashed.refusals
  · exact Transfer.refusals hG hkdf config

open Pedersen in
/-- A soundness parameter of nine bits, a wrong witness, a session that is in use and a payload
limit beyond what HKDF reaches are refused at once; the proof of a committed value is not. -/
theorem refusals_at_once_order281 :
    (∀ e, (Attempt.configure (SigmaRole.new? Residues.order281.group ⟨9, none⟩)).run.run e =
      some ⟨.error (.setup (.soundnessNotAligned 9)), e, []⟩) ∧
    (∀ e, (SigmaRole.order281.proveKnowledge (.logarithm _ Residues.order281.group.generator)
      (scalar _ 2)).run.run e = some ⟨.error (.input .witnessMismatch), e, []⟩) ∧
    (∃ start o first calls last,
      (Committer.setup Residues.order281.group ⟨8, none⟩).run.run start = some o ∧
      o.result = .ok first ∧ Calls (scheme Residues.order281.group).perform first calls last ∧
      (∀ e, ((Committer.commit (scalar _ 6) 1).run last).run e =
        some ⟨(.error (.input (.sessionInUse 1)), last), e, []⟩) ∧
      (Committer.prove 1).Refuses last none) ∧
    ∀ e, (Transfer.Sender.setup Residues.order281.group .hkdfSha256 ⟨8, 8161, none⟩).run.run e =
      some ⟨.error (.setup (.payloadLimitTooLarge 8161 8160)), e, []⟩ := by
  obtain ⟨hproofs, hcommitments, -, htransfers⟩ := refusals_at_once
  have hG := Residues.order281.powerLaws
  refine ⟨((hproofs _).new ⟨9, none⟩).atOnce _ rfl, ?_, ?_, ?_⟩
  · refine ((hproofs _).proveKnowledge _ _ _).atOnce _ ?_
    unfold Statement.refusal?
    rw [if_neg (by decide +kernel)]
  · let start := (Endpoint.fresh (.constant 1)).deliver
      [Wire.write (KeyMessage.mk (Residues.order281.group.encode (keyOf (scalar _ 2)).h))]
    have hrun : (Committer.setup Residues.order281.group ⟨8, none⟩).run.run start = some _ := rfl
    have h0 : Calls (scheme Residues.order281.group).perform
        (Committer.joined .order281 (scalar _ 2)) [] _ := .nil
    have h1 := h0.snoc (.commit (scalar _ 5) 1) (atLine true) rfl
    have hperform := (hcommitments _ hG).perform hrun rfl h1
    exact ⟨start, _, _, _, _, hrun, rfl, h1, (hperform (.commit (scalar _ 6) 1)).atOnce _ rfl,
      hperform (.reveal .proof 1)⟩
  · exact ((htransfers _ hG _ KeyDerivation.faithful_hkdfSha256 _).senderSetup).atOnce _ rfl

end TwoParty
