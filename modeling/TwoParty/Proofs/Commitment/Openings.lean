/-
A receiver of Pedersen commitments against any committer: what it makes of a commitment and of an
opening, and to what a commitment opens. In terms of logarithms the openings of a commitment are
the points of a line whose slope is the trapdoor, so with given randomness there is one value,
unless the trapdoor is zero and every value is as good.
-/
import TwoParty.Proofs.Commitment.Pedersen
import TwoParty.Proofs.Frames
import TwoParty.Proofs.Group.Decoding
import TwoParty.Proofs.Group.Residues

namespace TwoParty.Pedersen

open CyclicGroup

variable {G : CyclicGroup}

/-! ## Logarithms -/

namespace Key

variable (hG : G.PrimeOrder)
include hG

theorem commitment_antilog (η : ZMod G.order) (x r : G.Scalar) :
    Key.commitment ⟨G.generator, G.antilog η⟩ x r = G.antilog (toZMod r + η * toZMod x) := by
  unfold commitment
  rw [hG.generator_eq_antilog, hG.exponentiate_antilog, hG.exponentiate_antilog, one_mul,
    hG.multiply_antilog]

/-- Two pairs of value and randomness give one commitment exactly if they lie on one line. -/
theorem commitment_eq_commitment_iff (η : ZMod G.order) (x r x' r' : G.Scalar) :
    Key.commitment ⟨G.generator, G.antilog η⟩ x' r' =
        Key.commitment ⟨G.generator, G.antilog η⟩ x r ↔
      toZMod r' + η * toZMod x' = toZMod r + η * toZMod x := by
  rw [commitment_antilog hG, commitment_antilog hG, hG.antilog_inj]

end Key

/-- With one randomness, two values give one commitment exactly if the trapdoor is zero. -/
theorem commitment_keyOf_eq_iff (hG : G.PrimeOrder) (trapdoor r : G.Scalar) {x x' : G.Scalar}
    (hne : x' ≠ x) :
    (keyOf trapdoor).commitment x' r = (keyOf trapdoor).commitment x r ↔ trapdoor = G.zero := by
  have := hG.fact
  have hsub : toZMod x' - toZMod x ≠ 0 := by
    rw [ne_eq, sub_eq_zero, toZMod_inj]
    exact hne
  unfold keyOf
  rw [exponentiateGenerator_eq_antilog, Key.commitment_eq_commitment_iff hG, add_right_inj,
    ← sub_eq_zero, ← mul_sub, mul_eq_zero, or_iff_left hsub, ← toZMod_zero, toZMod_inj]

/-! ## What is received -/

/-- The session, the value and the randomness that an opening writes. -/
def OpeningMessage.Writes (message : OpeningMessage) (opening : SessionId × G.Scalar × G.Scalar) :
    Prop :=
  message.id = opening.1 ∧ G.decodeScalar? message.x = some opening.2.1 ∧
    G.decodeScalar? message.r = some opening.2.2

theorem Receiver.checkSession_eq_ok_iff {expected received : SessionId} {u : Unit} :
    checkSession expected received = .ok u ↔ received = expected := by
  unfold checkSession
  split
  · rename_i h; exact iff_of_true rfl h.symm
  · rename_i h; exact iff_of_false nofun fun heq => h heq.symm

namespace Key

variable {key : Key G} {id : SessionId} {c : G.Element} {message : OpeningMessage}

/-- The check of an opening of the commitment `c`; it gives the value. -/
def checkOpening (key : Key G) (id : SessionId) (c : G.Element) (message : OpeningMessage) :
    Except Cheating G.Scalar := do
  Receiver.checkSession id message.id
  let x ← G.decodeReceivedScalar "x" message.x
  let r ← G.decodeReceivedScalar "r" message.r
  if key.commitment x r = c then .ok x else .error (.openingMismatch id)

theorem checkOpening_of_writes {x r : G.Scalar} (h : message.Writes (id, x, r)) :
    key.checkOpening id c message =
      if key.commitment x r = c then .ok x else .error (.openingMismatch id) := by
  obtain ⟨hid, hx, hr⟩ := h
  unfold checkOpening Receiver.checkSession
  rw [if_pos hid.symm, decodeReceivedScalar_eq_ok_iff.2 hx, decodeReceivedScalar_eq_ok_iff.2 hr]
  rfl

theorem checkOpening_eq_ok_iff {x : G.Scalar} :
    key.checkOpening id c message = .ok x ↔
      ∃ r, message.Writes (id, x, r) ∧ key.commitment x r = c := by
  constructor
  · intro h
    unfold checkOpening at h
    obtain ⟨_, hid, h⟩ := bind_eq_ok_iff.1 h
    obtain ⟨x', hx, h⟩ := bind_eq_ok_iff.1 h
    obtain ⟨r, hr, h⟩ := bind_eq_ok_iff.1 h
    split at h
    · rename_i hc
      cases h
      exact ⟨r, ⟨Receiver.checkSession_eq_ok_iff.1 hid, decodeReceivedScalar_eq_ok_iff.1 hx,
        decodeReceivedScalar_eq_ok_iff.1 hr⟩, hc⟩
    · cases h
  · rintro ⟨r, hw, hc⟩
    rw [checkOpening_of_writes hw, if_pos hc]

end Key

namespace Receiver

theorem join_eq (role : SigmaRole G) : join role = do
    let trapdoor ← Attempt.of G.randomScalar
    Attempt.send (KeyMessage.mk (G.encode (keyOf trapdoor).h))
    Attempt.note ⟨.debug, "pedersen commitment key sent", [], role.span⟩
    return joined role trapdoor := rfl

variable (receiver : Receiver G) (id : SessionId)

/-- The check of a commitment; it gives the session and the commitment. -/
def checkCommitment (message : CommitmentMessage) : Except Cheating (SessionId × G.Element) := do
  let c ← G.decodeMember "c" message.c
  if (receiver.commitments.find? message.id).isSome then .error (.duplicateCommitment message.id)
  else .ok (message.id, c)

theorem checkCommitment_eq_ok_iff {message : CommitmentMessage} {c : G.Element} :
    receiver.checkCommitment message = .ok (id, c) ↔
      message.id = id ∧ G.Describes message.c c ∧ receiver.commitments.find? id = none := by
  unfold checkCommitment
  rw [bind_eq_ok_iff]
  constructor
  · rintro ⟨c', hc, h⟩
    split at h
    · cases h
    · rename_i hnew
      cases h
      exact ⟨rfl, decodeMember_eq_ok_iff.1 hc, by simpa using hnew⟩
  · rintro ⟨rfl, hc, hnew⟩
    exact ⟨c, decodeMember_eq_ok_iff.2 hc, by rw [hnew]; rfl⟩

theorem receiveCommitment_eq : receiveCommitment.runIn receiver = do
    let (id, c) ← Attempt.judge receiver.role.span
      (receiver.checkCommitment (← Attempt.receive CommitmentMessage))
    Attempt.note ⟨.debug, "pedersen commitment received", [("session", toString id)],
      receiver.role.span⟩
    return (id, receiver.opened id c) := by
  rw [runIn_receiveCommitment]
  congr 1
  funext message
  unfold checkCommitment
  rw [← Attempt.judge_judge]
  congr 1
  funext c
  split
  · rfl
  · rfl

theorem receiveOpening_eq {c : G.Element} (h : receiver.commitments.find? id = some c) :
    (receiveOpening id).runIn receiver = do
      let x ← Attempt.judge receiver.role.span
        (receiver.key.checkOpening id c (← Attempt.receive OpeningMessage))
      Attempt.note ⟨.debug, "pedersen decommitment accepted", [("session", toString id)],
        receiver.role.span⟩
      return (x, receiver) := by
  rw [runIn_receiveOpening receiver id h]
  congr 1
  funext message
  unfold Key.checkOpening
  rw [← Attempt.judge_judge]
  congr 1
  funext _
  rw [← Attempt.judge_judge]
  congr 1
  funext x
  rw [← Attempt.judge_judge]
  congr 1
  funext r
  split
  · rfl
  · rfl

/-- Setting up ends, if it does, with the key of some trapdoor. -/
theorem eq_joined_of_setup {config : SigmaConfig} {p : Endpoint}
    {o : Outcome (Except ProtocolError (Receiver G))} {receiver : Receiver G}
    (hrun : (setup G config).run.run p = some o) (ho : o.result = .ok receiver) :
    ∃ role, receiver = .joined role receiver.trapdoor := by
  have hjoin : ∀ role : SigmaRole G, (join role).Ensures p True fun o =>
      ∀ receiver, o.result = .ok receiver → receiver = .joined role receiver.trapdoor := by
    intro role
    refine .scalar (fun _ => trivial) fun trapdoor source _ => ?_
    refine .send (fun _ => ?_) fun _ => ?_
    · refine .note (.pure ?_)
      rintro receiver ⟨⟩
      rfl
    · rintro receiver ⟨⟩
  unfold setup at hrun
  rcases hnew : SigmaRole.new? G config with cause | role
  · rw [hnew] at hrun
    cases hrun
    cases ho
  · rw [hnew] at hrun
    exact ⟨role, (hjoin role).outcome hrun receiver ho⟩

/-! ## Binding -/

/-- Binding with given randomness: whatever the receiver has stored since it was set up, a
commitment to `x` is never opened to another value with the randomness it was made of, unless the
trapdoor drawn is zero. Then the key is the identity, and it is opened to every value. -/
theorem opening_binding (hG : G.PrimeOrder) {config : SigmaConfig} {p₀ : Endpoint}
    {o₀ : Outcome (Except ProtocolError (Receiver G))} {receiver : Receiver G}
    (hsetup : (setup G config).run.run p₀ = some o₀) (ho : o₀.result = .ok receiver)
    (sessions : Sessions G.Element) (id : SessionId) {x x' r : G.Scalar}
    (hfind : sessions.find? id = some (receiver.key.commitment x r)) (hne : x' ≠ x) {p : Endpoint}
    (hframe : Conveys OpeningMessage.Writes p.inbox.head? (id, x', r)) :
    ∃ o, ((receiveOpening id).runIn { receiver with commitments := sessions }).run.run p = some o ∧
      (receiver.trapdoor ≠ G.zero →
        o.result = .error (.cheating (.openingMismatch id))) ∧
      (receiver.trapdoor = G.zero →
        o.result = .ok (x', { receiver with commitments := sessions })) := by
  obtain ⟨role, hjoined⟩ := eq_joined_of_setup hsetup ho
  have hkey : receiver.key = keyOf receiver.trapdoor := by rw [hjoined]; rfl
  obtain ⟨frame, message, hhead, hread, hwrites⟩ := hframe
  have hcheck : Attempt.heard (receiver.key.checkOpening id (receiver.key.commitment x r))
      p.inbox.head? = if receiver.trapdoor = G.zero then .ok x'
        else .error (.cheating (.openingMismatch id)) := by
    unfold Attempt.heard
    rw [Attempt.ofFrame?_eq_ok_iff.2 ⟨frame, hhead, hread⟩]
    show Except.mapError _ (Key.checkOpening _ _ _ message) = _
    rw [Key.checkOpening_of_writes hwrites, hkey]
    simp only [commitment_keyOf_eq_iff hG _ _ hne]
    split
    · rfl
    · rfl
  have hrun : ((receiveOpening id).runIn { receiver with commitments := sessions }).Ensures p False
      fun o => (receiver.trapdoor ≠ G.zero → o.result = .error (.cheating (.openingMismatch id))) ∧
        (receiver.trapdoor = G.zero →
          o.result = .ok (x', { receiver with commitments := sessions })) := by
    rw [receiveOpening_eq _ _ hfind]
    refine .hear rfl (fun error hheard => ?_) (fun y hheard => ?_)
    · rw [hcheck] at hheard
      split at hheard
      · cases hheard
      · rename_i hne
        cases hheard
        exact ⟨fun _ => rfl, fun hzero => absurd hzero hne⟩
    · rw [hcheck] at hheard
      split at hheard
      · rename_i hzero
        cases hheard
        exact .note (.pure ⟨fun hne => absurd hzero hne, fun _ => rfl⟩)
      · cases hheard
  exact hrun.exists_outcome not_false

/-- The opening of session one to the value six, with the randomness three. -/
def six : OpeningMessage :=
  ⟨1, encodeScalar Residues.order281.group (scalar _ 6),
    encodeScalar Residues.order281.group (scalar _ 3)⟩

theorem opening_binding_ones :
    ∃ o₀ receiver o,
      (setup Residues.order281.group ⟨8, none⟩).run.run (.fresh (.constant 1)) = some o₀ ∧
      o₀.result = .ok receiver ∧
      ((receiveOpening 1).runIn
          (receiver.opened 1 (receiver.key.commitment (scalar _ 5) (scalar _ 3)))).run.run
        ((Endpoint.fresh (.constant 1)).deliver [Wire.write six]) = some o ∧
      o.result = .error (.cheating (.openingMismatch 1)) := by
  have hsetup : (setup Residues.order281.group ⟨8, none⟩).run.run (.fresh (.constant 1)) =
      some _ := rfl
  have hne : (scalar _ 6 : Residues.order281.group.Scalar) ≠ scalar _ 5 := by decide
  have hframe : Conveys OpeningMessage.Writes
      ((Endpoint.fresh (.constant 1)).deliver [Wire.write six]).inbox.head?
      ((1, scalar _ 6, scalar _ 3) : SessionId × Residues.order281.group.Scalar ×
        Residues.order281.group.Scalar) := ⟨_, _, rfl, rfl, rfl, rfl, rfl⟩
  obtain ⟨o, hrun, hmismatch, -⟩ := opening_binding Residues.primeOrder_order281 hsetup rfl
    (.insert {} 1 _) 1 rfl hne hframe
  exact ⟨_, _, o, hsetup, rfl, hrun, hmismatch (by decide)⟩

/-- From zero bytes the trapdoor zero is drawn, and a commitment to five is opened to six with the
randomness it was made of. -/
theorem opening_ambiguous_zeros :
    ∃ o₀ receiver o,
      (setup Residues.order281.group ⟨8, none⟩).run.run (.fresh (.constant 0)) = some o₀ ∧
      o₀.result = .ok receiver ∧
      ((receiveOpening 1).runIn
          (receiver.opened 1 (receiver.key.commitment (scalar _ 5) (scalar _ 3)))).run.run
        ((Endpoint.fresh (.constant 0)).deliver [Wire.write six]) = some o ∧
      o.result = .ok (scalar _ 6,
        receiver.opened 1 (receiver.key.commitment (scalar _ 5) (scalar _ 3))) :=
  ⟨_, _, _, rfl, rfl, rfl, rfl⟩

end Receiver

end TwoParty.Pedersen
