/-
The schemes that are offered, each with its honest conduct: Pedersen commitments, which can be
opened and proven, the equivocal commitments made of them, and hash commitments. Over every script
and in every order of turns the parties agree.
-/
import TwoParty.Proofs.Commitment.Hashed
import TwoParty.Proofs.Commitment.Proving
import TwoParty.Proofs.Commitment.Script

namespace TwoParty

open CyclicGroup

/-! ## Pedersen commitments -/

namespace Pedersen

variable {G : CyclicGroup}

/-- Pedersen commitments, opened or proven. -/
def scheme (G : CyclicGroup) : Scheme (Committer G) (Receiver G) G.Scalar G.Element Manner :=
  .proving _ _

/-- What the committer draws for an operation: the randomness of a commitment, or that of a
proof. -/
def draws {Manner : Type} (G : CyclicGroup) (joint : Manner → Bool) :
    Operation G.Scalar Manner → List (Nat × (Bytes → Bool))
  | .commit _ _ => [G.scalarDraw]
  | .reveal manner _ => if joint manner then [G.scalarDraw] else []
  | .close _ => []

theorem setup_meets (hG : G.PrimeOrder) {bits : UInt32} {soundness : Soundness G.order}
    (hsoundness : Soundness.new? G.order bits = .ok soundness) (span span' : Option String)
    (s : Source) {t t' : Source} {trapdoor : G.Scalar} (h : G.nextScalar t = some (trapdoor, t')) :
    ∃ passages, (Committer.setup G ⟨bits, span⟩).Meets (Receiver.setup G ⟨bits, span'⟩) s t passages
      (Committer.joined ⟨soundness, span⟩ trapdoor, s)
      (Receiver.joined ⟨soundness, span'⟩ trapdoor, t') := by
  have hjoin := (join_meets hG ⟨soundness, span'⟩ ⟨soundness, span⟩ h (t := s)).swap
  unfold Committer.setup Receiver.setup SigmaRole.new?
  rw [hsoundness]
  exact ⟨_, hjoin⟩

/-- The committer with the records of a table. -/
def Committer.holding (role : SigmaRole G) (trapdoor : G.Scalar)
    (T : Table G.Scalar G.Scalar G.Element) : Committer G :=
  ⟨role, keyOf trapdoor, T⟩

/-- The receiver with the commitments of a table. -/
def Receiver.holding (role : SigmaRole G) (trapdoor : G.Scalar)
    (T : Table G.Scalar G.Scalar G.Element) : Receiver G :=
  ⟨role, keyOf trapdoor, trapdoor, T.map CommitmentRecord.commitment⟩

section Holding

variable {role role' : SigmaRole G} {trapdoor : G.Scalar} {T : Table G.Scalar G.Scalar G.Element}
  {id : SessionId}

theorem Receiver.find?_holding :
    (Receiver.holding role trapdoor T).commitments.find? id =
      (T.find? id).map CommitmentRecord.commitment :=
  Sessions.find?_map _ _ _

theorem holding_commit_meets (hG : G.PrimeOrder) (hnew : T.find? id = none) (x : G.Scalar)
    {s s' : Source} {r : G.Scalar} (hr : G.nextScalar s = some (r, s')) (t : Source) :
    ((Committer.commit x id).runIn (.holding role trapdoor T)).Meets
      (Receiver.receiveCommitment.runIn (.holding role' trapdoor T)) s t
      [(.first, Wire.write
        (CommitmentMessage.mk id (G.encode ((keyOf trapdoor).commitment x r))))]
      (((), .holding role trapdoor (T.insert id ⟨x, r, (keyOf trapdoor).commitment x r⟩)), s')
      ((id, .holding role' trapdoor (T.insert id ⟨x, r, (keyOf trapdoor).commitment x r⟩)), t) := by
  have hnew' : (Receiver.holding role' trapdoor T).commitments.find? id = none := by
    rw [Receiver.find?_holding, hnew]
    rfl
  exact (commit_meets hG (.holding role' trapdoor T) (.holding role trapdoor T) id x
    hG.isMember_generator (isMember_keyOf hG trapdoor) hnew' hnew hr).swap

theorem holding_find? {record : CommitmentRecord G.Scalar G.Scalar G.Element}
    (hrecord : T.find? id = some record) :
    (Receiver.holding role' trapdoor T).commitments.find? id = some record.commitment := by
  rw [Receiver.find?_holding, hrecord]
  rfl

end Holding

/-- Parties whose key has the given trapdoor. The records are the commitments to their values. -/
def conduct (hG : G.PrimeOrder) (soundness : Soundness G.order) (span span' : Option String)
    (trapdoor : G.Scalar) : Conduct (scheme G) G.Scalar where
  committer := .holding ⟨soundness, span⟩ trapdoor
  receiver := .holding ⟨soundness, span'⟩ trapdoor
  Good _ record := (keyOf trapdoor).commitment record.value record.randomness = record.commitment
  Fits _ := True
  Supplied s script := (s.after (script.flatMap (draws G (scheme G).joint))).isSome = true
  sent?_committer T id := rfl
  received?_receiver T id := Receiver.find?_holding
  forget_committer T id := rfl
  forget_receiver T id := by unfold Receiver.holding; rw [Sessions.map_erase]; rfl
  supplied_close h := h
  commit_meets hnew _ hs := by
    obtain ⟨r, s', hr, hs'⟩ := nextScalar_of_after hs
    exact ⟨_, s', _, rfl, rfl, hs', holding_commit_meets hG hnew _ hr⟩
  reveal_meets {T id manner record s script} hrecord hgood hmanner hs := by
    cases manner with
    | opening =>
      exact ⟨hs, _, fun t => (decommit_meets hG hrecord (holding_find? hrecord) hgood t s).swap⟩
    | proof => cases hmanner
  joint_meets {T id manner record s script} hrecord hgood hmanner hs := by
    cases manner with
    | opening => cases hmanner
    | proof =>
      obtain ⟨nonce, s', hnonce, hs'⟩ := nextScalar_of_after hs
      exact ⟨s', hs', fun t => ⟨_, prove_meets hG rfl rfl rfl (isMember_keyOf hG trapdoor) hrecord
        (holding_find? hrecord) hgood hnonce t⟩⟩

end Pedersen

/-! ## Equivocal commitments -/

namespace Equivocal

variable {ρ σ Value Randomness Commitment Key Key' : Type}
  [ProvingCommitterRole ρ Value Randomness Commitment Key]
  [VerifyingReceiverRole σ Value Commitment Key']

/-- The operation of the inner scheme: what is revealed is proven. -/
def inside : Operation Value Unit → Operation Value Manner
  | .commit value id => .commit value id
  | .reveal _ id => .reveal .proof id
  | .close id => .close id

theorem runIn_lift {α : Type} (x : Action ρ α) (role : Equivocal ρ) :
    (lift x).runIn role = (fun p => (p.1, ⟨p.2⟩)) <$> x.runIn role.inner :=
  Action.runIn_within _ _ x role

/-- The roles of another scheme, which reveal by proofs. -/
def conduct (κ : Conduct (Scheme.proving ρ σ) Randomness) :
    Conduct (Scheme.plain (Equivocal ρ) (Equivocal σ) true) Randomness where
  committer T := ⟨κ.committer T⟩
  receiver T := ⟨κ.receiver T⟩
  Good := κ.Good
  Fits := κ.Fits
  Supplied s script := κ.Supplied s (script.map inside)
  sent?_committer := κ.sent?_committer
  received?_receiver := κ.received?_receiver
  forget_committer T id := congrArg Equivocal.mk (κ.forget_committer T id)
  forget_receiver T id := congrArg Equivocal.mk (κ.forget_receiver T id)
  supplied_close h := κ.supplied_close h
  commit_meets hnew hfits hs := by
    obtain ⟨record, s', frame, hvalue, hgood, hs', hmeets⟩ := κ.commit_meets hnew hfits hs
    refine ⟨record, s', frame, hvalue, hgood, hs', fun t => ?_⟩
    show Attempt.Meets ((lift _).runIn _) ((lift _).runIn _) _ _ _ _ _
    rw [runIn_lift, runIn_lift]
    exact (hmeets t).map _ _
  reveal_meets _ _ hjoint := by cases hjoint
  joint_meets hrecord hgood _ hs := by
    obtain ⟨s', hs', hmeets⟩ := κ.joint_meets hrecord hgood rfl hs
    refine ⟨s', hs', fun t => ?_⟩
    obtain ⟨t', passages, hmeets⟩ := hmeets t
    refine ⟨t', passages, ?_⟩
    show Attempt.Meets ((lift _).runIn _) ((lift _).runIn _) _ _ _ _ _
    rw [runIn_lift, runIn_lift]
    exact hmeets.map _ _

end Equivocal

/-! ## Hash commitments -/

namespace Hashed

/-- Hash commitments, opened to the receiver. -/
def scheme : Scheme Committer Receiver Bytes Bytes Unit :=
  .plain _ _ false

/-- Parties with one hash function. The records are the digests of values that fit into a frame. -/
def conduct (hash : Shake) (span span' : Option String) : Conduct scheme Bytes where
  committer T := ⟨hash, span, T⟩
  receiver T := ⟨hash, span', T.map CommitmentRecord.commitment⟩
  Good id record := digest hash id record.randomness record.value = record.commitment ∧
    record.randomness.length < 2 ^ 64 ∧ record.value.length < 2 ^ 64
  Fits x := x.length < 2 ^ 64
  Supplied _ _ := True
  sent?_committer T id := rfl
  received?_receiver T id := Sessions.find?_map _ _ _
  forget_committer T id := rfl
  forget_receiver T id := by rw [Sessions.map_erase]; rfl
  supplied_close h := h
  commit_meets {T id x s script} hnew hfits _ := by
    have hnew' : (T.map CommitmentRecord.commitment).find? id = none := by
      rw [Sessions.find?_map, hnew]
      rfl
    have hlen : (s.peek 32).length < 2 ^ 64 := by rw [Source.length_peek]; norm_num
    exact ⟨⟨x, s.peek 32, digest hash id (s.peek 32) x⟩, _, _, rfl, ⟨rfl, hlen, hfits⟩, trivial,
      fun t => commit_meets x hnew hnew' s t⟩
  reveal_meets {T id manner record s script} hrecord hgood _ _ := by
    have hrecord' : (T.map CommitmentRecord.commitment).find? id = some record.commitment := by
      rw [Sessions.find?_map, hrecord]
      rfl
    exact ⟨trivial, _, fun t =>
      decommit_meets hrecord hrecord' hgood.1 hgood.2.1 hgood.2.2 s t⟩
  joint_meets _ _ hjoint := by cases hjoint

end Hashed

/-! ## Agreement -/

/-- Pedersen commitments behind the equivocal roles, which prove what they reveal. -/
def Pedersen.equivocalScheme (G : CyclicGroup) : Scheme (Equivocal (Pedersen.Committer G))
    (Equivocal (Pedersen.Receiver G)) G.Scalar G.Element Unit :=
  .plain _ _ true

section Agreement

open Pedersen

/-- Agreement. The parties of Pedersen commitments are set up with any accepted soundness parameter
whatever they draw; then they agree over every admissible script, in every order of turns, as long
as the committer's draws end, and so do the equivocal roles made of them. The parties of hash
commitments agree without a setup and without further conditions, if every value fits into a
frame. -/
theorem scripts_agree :
    (∀ G : CyclicGroup, G.PrimeOrder → ∀ (bits : UInt32) (soundness : Soundness G.order),
      Soundness.new? G.order bits = .ok soundness → ∀ (span span' : Option String) (s t : Source),
      (t.after [G.scalarDraw]).isSome = true → ∃ o link committer receiver,
        (Link.fresh s t).runBoth (Committer.setup G ⟨bits, span⟩).run
          (Receiver.setup G ⟨bits, span'⟩).run = some (o, link) ∧
        o.left.result = .ok committer ∧ o.right.result = .ok receiver ∧
        (∀ script turns, Admitted (fun _ => True) ⟨[]⟩ script →
          Interleaves (scheme G).joint [] script turns →
          (s.after (script.flatMap (draws G (scheme G).joint))).isSome = true →
          (scheme G).Agrees turns [] script ⟨[]⟩ committer receiver link) ∧
        ∀ script turns, Admitted (fun _ => True) ⟨[]⟩ script →
          Interleaves (equivocalScheme G).joint [] script turns →
          (s.after (script.flatMap (draws G (equivocalScheme G).joint))).isSome = true →
          (equivocalScheme G).Agrees turns [] script ⟨[]⟩ ⟨committer⟩ ⟨receiver⟩ link) ∧
    ∀ (hash : Shake) (span span' : Option String) (script : List (Operation Bytes Unit))
      (turns : List Turn) (s t : Source), Admitted (fun x => x.length < 2 ^ 64) ⟨[]⟩ script →
      Interleaves Hashed.scheme.joint [] script turns →
      Hashed.scheme.Agrees turns [] script ⟨[]⟩ ⟨hash, span, {}⟩ ⟨hash, span', {}⟩
        (.fresh s t) := by
  refine ⟨fun G hG bits soundness hsoundness span span' s t ht => ?_, ?_⟩
  · obtain ⟨trapdoor, t', htrapdoor, -⟩ := nextScalar_of_after ht
    obtain ⟨passages, hsetup⟩ := setup_meets hG hsoundness span span' s htrapdoor
    obtain ⟨o, hrun, hleft, hright⟩ := hsetup.runBoth
    refine ⟨o, _, _, _, hrun, hleft, hright, fun script turns hscript hturns hs => ?_,
      fun script turns hscript hturns hs => ?_⟩
    · exact (conduct hG soundness span span' trapdoor).agrees hscript hturns hs t'
    · -- the equivocal committer draws as the inner one does for its proofs
      have hdraws : (script.map Equivocal.inside).flatMap (draws G (scheme G).joint) =
          script.flatMap (draws G (equivocalScheme G).joint) := by
        rw [List.flatMap_map]
        congr 1
        funext op
        cases op <;> rfl
      rw [← hdraws] at hs
      exact (Equivocal.conduct (conduct hG soundness span span' trapdoor)).agrees hscript hturns hs
        t'
  · intro hash span span' script turns s t hscript hturns
    exact (Hashed.conduct hash span span').agrees hscript hturns trivial t

/-- Two sessions at once, of which the first is closed and its id used again. -/
def reopening : List (Operation Residues.order281.group.Scalar Manner) :=
  [.commit (scalar _ 5) 1, .commit (scalar _ 6) 2, .reveal .opening 1, .close 1,
    .commit (scalar _ 7) 1, .reveal .proof 2, .reveal .opening 1]

/-- The receiver is behind by up to four operations, and by two when the proof begins. -/
theorem interleaves_reopening :
    Interleaves (scheme Residues.order281.group).joint [] reopening
      [.committer, .committer, .receiver, .committer, .committer, .committer, .receiver, .receiver,
        .both, .committer, .receiver] :=
  .ahead rfl (.ahead rfl (.catchUp (.ahead rfl (.ahead rfl (.ahead rfl (.catchUp (.catchUp
    (.together rfl (.ahead rfl (.catchUp .done))))))))))

/-- A session that is proven, closed and opened again. -/
def proving : List (Operation Residues.order281.group.Scalar Unit) :=
  [.commit (scalar _ 5) 1, .reveal () 1, .close 1, .commit (scalar _ 6) 1, .reveal () 1]

theorem interleaves_proving :
    Interleaves (equivocalScheme Residues.order281.group).joint [] proving
      [.committer, .receiver, .both, .committer, .committer, .both] :=
  .ahead rfl (.catchUp (.together rfl (.ahead rfl (.ahead rfl (.together rfl .done)))))

theorem scripts_agree_order281 :
    (∃ o link committer receiver,
      (Link.fresh (.constant 0) (.constant 1)).runBoth
        (Committer.setup Residues.order281.group ⟨8, none⟩).run
        (Receiver.setup Residues.order281.group ⟨8, none⟩).run = some (o, link) ∧
      (scheme Residues.order281.group).Agrees
        [.committer, .committer, .receiver, .committer, .committer, .committer, .receiver,
          .receiver, .both, .committer, .receiver]
        [] reopening ⟨[]⟩ committer receiver link ∧
      (equivocalScheme Residues.order281.group).Agrees
        [.committer, .receiver, .both, .committer, .committer, .both]
        [] proving ⟨[]⟩ ⟨committer⟩ ⟨receiver⟩ link) ∧
    Hashed.scheme.Agrees [.committer, .committer, .receiver, .receiver] []
      [.commit [1] 1, .reveal () 1] ⟨[]⟩ ⟨.shake256, none, {}⟩ ⟨.shake256, none, {}⟩
      (.fresh (.constant 0) (.constant 0)) := by
  obtain ⟨hpedersen, hhashed⟩ := scripts_agree
  constructor
  · obtain ⟨o, link, committer, receiver, hrun, -, -, hopened, hproven⟩ :=
      hpedersen _ Residues.primeOrder_order281 8 SigmaRole.order281.soundness rfl none none
        (.constant 0) (.constant 1) (by decide +kernel)
    refine ⟨o, link, committer, receiver, hrun,
      hopened _ _ ?_ interleaves_reopening (by decide +kernel),
      hproven _ _ ?_ interleaves_proving (by decide +kernel)⟩
    · exact ⟨⟨rfl, trivial⟩, ⟨rfl, trivial⟩, ⟨_, rfl⟩, ⟨_, rfl⟩, ⟨rfl, trivial⟩, ⟨_, rfl⟩,
        ⟨_, rfl⟩, trivial⟩
    · exact ⟨⟨rfl, trivial⟩, ⟨_, rfl⟩, ⟨_, rfl⟩, ⟨rfl, trivial⟩, ⟨_, rfl⟩, trivial⟩
  · exact hhashed _ _ _ _ _ _ _ ⟨⟨rfl, show 1 < 2 ^ 64 by norm_num⟩, ⟨_, rfl⟩, trivial⟩
      (.ahead rfl (.ahead rfl (.catchUp (.catchUp .done))))

end Agreement

end TwoParty
