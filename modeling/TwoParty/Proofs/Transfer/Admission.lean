/-
A sender of transfers against any receiver: it admits only bases whose statement the receiver has
proven to it. The proof is the one of `Sigma.Knowledge`, of which the exact outcome is known for
whatever frames arrive; a proof that does not convince is an accusation.
-/
import TwoParty.Transfer.Sender
import TwoParty.Proofs.Sigma.Prover
import TwoParty.Proofs.Sigma.Verifier
import TwoParty.Proofs.Transfer.Privacy

namespace TwoParty.Transfer

open CyclicGroup

variable {G : CyclicGroup}

/-! ## Bases -/

/-- The frame conveys bases: members of the group, of which the first is not the identity. -/
def ConveysBases (frame? : Option Bytes) (bases : Bases G) : Prop :=
  Conveys (fun (m : SetupMessage) (bases : Bases G) => (G.Describes m.g1 bases.g1 ∧
    bases.g1 ≠ G.identity) ∧ G.Describes m.h0 bases.h0 ∧ G.Describes m.h1 bases.h1) frame? bases

theorem ofMessage_eq_ok_iff {message : SetupMessage} {bases : Bases G} :
    Bases.ofMessage message = .ok bases ↔ (G.Describes message.g1 bases.g1 ∧
      bases.g1 ≠ G.identity) ∧ G.Describes message.h0 bases.h0 ∧
      G.Describes message.h1 bases.h1 := by
  unfold Bases.ofMessage
  simp only [bind_eq_ok_iff, decodeNontrivial_eq_ok_iff, decodeMember_eq_ok_iff, pure, Except.pure,
    Except.ok.injEq]
  constructor
  · rintro ⟨g1, hg1, h0, hh0, h1, hh1, rfl⟩
    exact ⟨hg1, hh0, hh1⟩
  · rintro ⟨hg1, hh0, hh1⟩
    exact ⟨_, hg1, _, hh0, _, hh1, rfl⟩

theorem heard_bases_iff {frame? : Option Bytes} {bases : Bases G} :
    Attempt.heard Bases.ofMessage frame? = .ok bases ↔ ConveysBases frame? bases :=
  Attempt.heard_eq_ok_iff fun _ _ => ofMessage_eq_ok_iff

/-! ## Setting up -/

section Setup

variable {kdf : KeyDerivation} {config : Config} {role : SigmaRole G} {core : Core} {p : Endpoint}

/-- The sender ends as its verification of the bases does. -/
theorem run_setup (hrole : SigmaRole.new? G config.sigma = .ok role)
    (hcore : Core.new? kdf config = .ok core) {bases : Bases G}
    (hbases : ConveysBases p.inbox.head? bases) {o' : Outcome (Except ProtocolError Bool)}
    (hrun : (role.receiveKnowledge bases.statement).run.run
      { p with inbox := p.inbox.tail } = some o') :
    ∃ o, (Sender.setup G kdf config).run.run p = some o ∧
      o.result = match o'.result with
        | .ok true => .ok ⟨core, bases⟩
        | .ok false => .error (.cheating .invalidProof)
        | .error error => .error error := by
  have hsetup : (Sender.setup G kdf config).Ensures p False fun o =>
      o.result = match o'.result with
        | .ok true => .ok ⟨core, bases⟩
        | .ok false => .error (.cheating .invalidProof)
        | .error error => .error error := by
    unfold Sender.setup
    rw [hrole, hcore]
    simp only [Attempt.configure_ok, pure_bind]
    rw [← heard_bases_iff] at hbases
    refine .hear rfl (fun error hheard => ?_) fun bases' hheard => ?_
    · cases hbases.symm.trans hheard
    cases hbases.symm.trans hheard
    refine .call (.of_run hrun (Q := (· = o')) rfl) ?_ ?_
    · rintro _ error rfl hresult
      rw [hresult]; rfl
    · rintro _ convinced rfl hresult
      rw [hresult]
      cases convinced with
      | false => exact .accuse rfl
      | true => exact .note (.pure rfl)
  exact hsetup.exists_outcome not_false

/-- A sender that is set up was convinced of the statement of its bases. -/
theorem convinced_of_setup {o : Outcome (Except ProtocolError (Sender G))} {sender : Sender G}
    (hrun : (Sender.setup G kdf config).run.run p = some o) (ho : o.result = .ok sender) :
    ∃ role o', SigmaRole.new? G config.sigma = .ok role ∧
      ConveysBases p.inbox.head? sender.bases ∧
      (role.receiveKnowledge sender.bases.statement).run.run
        { p with inbox := p.inbox.tail } = some o' ∧ o'.result = .ok true := by
  have hsetup : (Sender.setup G kdf config).Ensures p True fun o => ∀ sender,
      o.result = .ok sender → ∃ role o', SigmaRole.new? G config.sigma = .ok role ∧
        ConveysBases p.inbox.head? sender.bases ∧
        (role.receiveKnowledge sender.bases.statement).run.run
          { p with inbox := p.inbox.tail } = some o' ∧ o'.result = .ok true := by
    unfold Sender.setup
    rcases SigmaRole.new? G config.sigma with cause | role
    · exact .fail nofun
    rcases Core.new? kdf config with cause | core
    · exact .fail nofun
    simp only [Attempt.configure_ok, pure_bind]
    refine .hear rfl (fun error _ => nofun) fun bases hheard => ?_
    refine .call (.intro (fun _ => trivial) fun o' hrun => hrun) (fun o' error _ _ => nofun) ?_
    intro o' convinced hrun hresult
    cases convinced with
    | false => exact .accuse nofun
    | true =>
      refine .note (.pure ?_)
      rintro sender ⟨⟩
      exact ⟨role, o', rfl, heard_bases_iff.1 hheard, hrun, hresult⟩
  exact hsetup.outcome hrun sender ho

end Setup

/-! ## Exactness -/

/-- The verifier of a proof of knowledge accepts, refuses and fails exactly as `Exact` says, and it
ends if its draws do. A sender of transfers is set up only if this verification, of the statement
of its bases, has convinced it, and accuses the receiver of an invalid proof if it has not. -/
theorem verification_exact (G : CyclicGroup) :
    (∀ {k : Nat} (role : SigmaRole G) (S : Statement G k) (source : Source) (inbox : List Bytes),
      ((role.receiveKnowledge S).run.run ⟨source, inbox, fun _ => true⟩ = none →
        role.openerOf? source = none) ∧
      ∀ o, (role.receiveKnowledge S).run.run ⟨source, inbox, fun _ => true⟩ = some o →
        role.Exact S source inbox o) ∧
    (∀ (kdf : KeyDerivation) (config : Config) (p : Endpoint),
      (∀ o sender, (Sender.setup G kdf config).run.run p = some o → o.result = .ok sender →
        ∃ role o', SigmaRole.new? G config.sigma = .ok role ∧
          ConveysBases p.inbox.head? sender.bases ∧
          (role.receiveKnowledge sender.bases.statement).run.run
            { p with inbox := p.inbox.tail } = some o' ∧ o'.result = .ok true) ∧
      ∀ role core bases o', SigmaRole.new? G config.sigma = .ok role →
        Core.new? kdf config = .ok core → ConveysBases p.inbox.head? bases →
        (role.receiveKnowledge bases.statement).run.run
          { p with inbox := p.inbox.tail } = some o' → o'.result = .ok false →
        ∃ o, (Sender.setup G kdf config).run.run p = some o ∧
          o.result = .error (.cheating .invalidProof)) := by
  refine ⟨fun role S source inbox => ⟨fun hnone => ?_, fun o hrun => ?_⟩,
    fun kdf config p => ⟨fun o sender hrun ho => ?_, ?_⟩⟩
  · exact (SigmaRole.onChannel_receiveKnowledge role S source inbox fun _ => true).of_none hnone
  · exact SigmaRole.exact_of_run role S hrun
  · exact convinced_of_setup hrun ho
  · intro role core bases o' hrole hcore hbases hrun hrefused
    obtain ⟨o, hsetup, ho⟩ := run_setup hrole hcore hbases hrun
    rw [hrefused] at ho
    exact ⟨o, hsetup, ho⟩

/-- The frames of a receiver with the bases `bases281` whose key and announcement are made of the
exponent zero, and which responds with `z`. -/
def frames281 (z : Residues.order281.group.Scalar) : List Bytes :=
  [Wire.write (SetupMessage.mk (Residues.order281.group.encode bases281.g1)
      (Residues.order281.group.encode bases281.h0) (Residues.order281.group.encode bases281.h1)),
    SigmaRole.keyFrame (zero Residues.order281.group),
    SigmaRole.announcementFrame bases281.statement (zero _), SigmaRole.responseFrame z (zero _)]

/-- From zero bytes the challenge zero is drawn, to which the response zero is the right one. -/
theorem verification_exact_order281 :
    SigmaRole.order281.openerOf? (.constant 255) = none ∧
    (∃ o, (SigmaRole.order281.receiveKnowledge bases281.statement).run.run
        ⟨.constant 0, (frames281 (zero _)).tail, fun _ => true⟩ = some o ∧
      SigmaRole.order281.Exact bases281.statement (.constant 0) (frames281 (zero _)).tail o) ∧
    (∃ o sender, (Sender.setup Residues.order281.group (.cyclic 4 4) ⟨8, 4, none⟩).run.run
        ⟨.constant 0, frames281 (zero _), fun _ => true⟩ = some o ∧ o.result = .ok sender ∧
      ConveysBases (frames281 (zero _)).head? sender.bases) ∧
    ∃ o, (Sender.setup Residues.order281.group (.cyclic 4 4) ⟨8, 4, none⟩).run.run
        ⟨.constant 0, frames281 (one _), fun _ => true⟩ = some o ∧
      o.result = .error (.cheating .invalidProof) := by
  obtain ⟨hverify, hsetup⟩ := verification_exact Residues.order281.group
  have hG := Residues.primeOrder_order281
  have hdescribes : ∀ a, Residues.order281.group.isMember a = true →
      Residues.order281.group.Describes (Residues.order281.group.encode a) a :=
    fun a ha => ⟨hG.decode?_encode a ha, ha⟩
  have hbases : ∀ z, ConveysBases (frames281 z).head? bases281 := fun z =>
    ⟨_, _, rfl, rfl, ⟨hdescribes _ proven_bases281.isMember_g1, proven_bases281.g1_ne_identity⟩,
      hdescribes _ proven_bases281.isMember_h0, hdescribes _ proven_bases281.isMember_h1⟩
  have hvalid : bases281.statement.isValid = true := Statement.isValid_iff.2 (by decide)
  have hkey := SigmaRole.conveysKey_keyFrame hG (zero _)
  have ha := SigmaRole.conveysAnnouncement_announcementFrame hG (by decide) hvalid (zero _)
  have hz := fun z => SigmaRole.conveysResponse_responseFrame hG z (zero _)
  -- both verifications end, for the randomness can be drawn
  have hends : ∀ z, ∃ o, (SigmaRole.order281.receiveKnowledge bases281.statement).run.run
      ⟨.constant 0, (frames281 z).tail, fun _ => true⟩ = some o ∧
      SigmaRole.order281.Exact bases281.statement (.constant 0) (frames281 z).tail o := by
    intro z
    rcases hrun : (SigmaRole.order281.receiveKnowledge bases281.statement).run.run
        ⟨.constant 0, (frames281 z).tail, fun _ => true⟩ with _ | o
    · cases (hverify _ _ _ _).1 hrun
    · exact ⟨o, rfl, (hverify _ _ _ _).2 o hrun⟩
  obtain ⟨accepted, haccepted, hexact⟩ := hends (zero _)
  obtain ⟨refused, hrefused, hexact'⟩ := hends (one _)
  refine ⟨rfl, ⟨accepted, haccepted, hexact⟩, ?_, ?_⟩
  · have hholds : bases281.statement.holds (scalar _ 3) = true := Statement.holds_iff.2 (by decide)
    have hconvinced := hexact.accepts.2 ⟨_, _, _, _, hkey, ha, hz _,
      SigmaRole.convinces_respond hG hvalid hholds _ _ _⟩
    obtain ⟨o, hrun, ho⟩ := @run_setup _ (.cyclic 4 4) ⟨8, 4, none⟩ _ _
      ⟨.constant 0, frames281 (zero _), fun _ => true⟩ rfl rfl _ (hbases _) _ haccepted
    rw [hconvinced] at ho
    obtain ⟨-, -, -, hconveyed, -⟩ := (hsetup _ _ _).1 o _ hrun ho
    exact ⟨o, _, hrun, ho, hconveyed⟩
  · -- the response one fails the first equation
    have hnot : ¬ SigmaRole.Convinces bases281.statement (SigmaRole.order281.challengeOf
        (.constant 0)) (Pedersen.keyOf (zero _)).h (bases281.statement.commit (zero _)) (one _)
        (zero _) := by
      rintro ⟨-, hequations⟩
      have hfirst := (hequations 0 (by decide)).2.2
      simp only [Statement.commit, Vector.getElem_map] at hfirst
      exact absurd hfirst (by decide)
    have hrefusal := hexact'.refuses.2 ⟨_, _, _, _, hkey, ha, hz _, hnot⟩
    exact (hsetup _ _ ⟨.constant 0, frames281 (one _), fun _ => true⟩).2 SigmaRole.order281
      ⟨.cyclic 4 4, 4, none⟩ bases281 refused rfl rfl (hbases _) hrefused hrefusal

end TwoParty.Transfer
