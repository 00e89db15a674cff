/-
A prover of knowledge against any verifier. Before it responds it sends its key and its
announcement, which only its own randomness determines; it responds to the challenge that the
verifier has committed to before and opened, and to no other. So the order of the frames is the
same whatever comes to it, and the response and the trapdoor are the last to leave.
-/
import TwoParty.Proofs.Commitment.Openings
import TwoParty.Proofs.Sigma.Knowledge

namespace TwoParty

open CyclicGroup Pedersen

variable {G : CyclicGroup} {k : Nat}

namespace SigmaRole

/-! ## What the prover sends -/

def keyFrame (trapdoor : G.Scalar) : Bytes :=
  Wire.write (KeyMessage.mk (G.encode (keyOf trapdoor).h))

def announcementFrame (S : Statement G k) (r : G.Scalar) : Bytes :=
  Wire.write (AnnouncementMessage.encode (S.commit r))

def responseFrame (z trapdoor : G.Scalar) : Bytes :=
  Wire.write (KnowledgeMessage.mk (.encode z) (G.encodeScalar trapdoor))

/-- The randomness of the announcement and the trapdoor, which the prover draws first. -/
def proverDraws (G : CyclicGroup) (source : Source) : Option (G.Scalar × G.Scalar) := do
  let (r, source) ← G.nextScalar source
  let (trapdoor, _) ← G.nextScalar source
  return (r, trapdoor)

/-! ## What the prover hears -/

/-- The frame commits to a challenge: it holds a member of the group, in the session of
challenges. -/
def Commits (G : CyclicGroup) (frame? : Option Bytes) (c : G.Element) : Prop :=
  Conveys (fun (m : CommitmentMessage) c => m.id = challengeSession ∧ G.Describes m.c c) frame? c

/-- The frame opens the commitment `c` to `x`, which is a challenge. -/
def Opens (role : SigmaRole G) (trapdoor : G.Scalar) (c : G.Element) (frame? : Option Bytes)
    (x : G.Scalar) : Prop :=
  Conveys (fun (m : OpeningMessage) x => ∃ r, m.Writes (challengeSession, x, r) ∧
    (keyOf trapdoor).commitment x r = c) frame? x ∧ x.val < 2 ^ role.soundness.bits

/-! ## The run -/

section Released

variable (role : SigmaRole G) (S : Statement G k) (w r trapdoor : G.Scalar) (inbox : List Bytes)
  (line : Nat → Bool)

/-- The traffic and the result of a prover that has drawn `r` and `trapdoor`: how far it gets is
up to the frames that come to it and to the fate of what it sends. -/
inductive Released : List Activity → Except ProtocolError Unit → Prop where
  | unkeyed {error : ProtocolError} (hkey : line 0 = false) :
    Released [.refused (keyFrame trapdoor)] (.error error)
  | uncommitted {error : ProtocolError} (hkey : line 0 = true) (hc : ∀ c, ¬ Commits G inbox[0]? c) :
    Released [.sent (keyFrame trapdoor), .received inbox[0]?] (.error error)
  | unannounced {error : ProtocolError} {c : G.Element} (hkey : line 0 = true)
    (hc : Commits G inbox[0]? c) (ha : line 1 = false) :
    Released [.sent (keyFrame trapdoor), .received inbox[0]?, .refused (announcementFrame S r)]
      (.error error)
  | unopened {error : ProtocolError} {c : G.Element} (hkey : line 0 = true)
    (hc : Commits G inbox[0]? c) (ha : line 1 = true)
    (hx : ∀ x, ¬ role.Opens trapdoor c inbox[1]? x) :
    Released [.sent (keyFrame trapdoor), .received inbox[0]?, .sent (announcementFrame S r),
      .received inbox[1]?] (.error error)
  | unanswered {error : ProtocolError} {c : G.Element} {x : G.Scalar} (hkey : line 0 = true)
    (hc : Commits G inbox[0]? c) (ha : line 1 = true) (hx : role.Opens trapdoor c inbox[1]? x)
    (hz : line 2 = false) :
    Released [.sent (keyFrame trapdoor), .received inbox[0]?, .sent (announcementFrame S r),
      .received inbox[1]?, .refused (responseFrame (G.add r (G.mul x w)) trapdoor)] (.error error)
  | answered {c : G.Element} {x : G.Scalar} (hkey : line 0 = true)
    (hc : Commits G inbox[0]? c) (ha : line 1 = true) (hx : role.Opens trapdoor c inbox[1]? x)
    (hz : line 2 = true) :
    Released [.sent (keyFrame trapdoor), .received inbox[0]?, .sent (announcementFrame S r),
      .received inbox[1]?, .sent (responseFrame (G.add r (G.mul x w)) trapdoor)] (.ok ())

end Released

variable {role : SigmaRole G} {S : Statement G k} {w r trapdoor : G.Scalar} {c : G.Element}
  {frame? : Option Bytes}

theorem heard_commitment_iff :
    Attempt.heard (Receiver.joined role trapdoor).checkCommitment frame? =
      .ok (challengeSession, c) ↔ Commits G frame? c := by
  rw [Attempt.heard_eq_ok_iff (fun message p => Receiver.checkCommitment_eq_ok_iff _ p.1)]
  simp [Conveys, Commits, Receiver.joined, Sessions.find?]

theorem Commits.eq {c' : G.Element} (h : Commits G frame? c) (h' : Commits G frame? c') :
    c = c' := by
  obtain ⟨frame, message, rfl, hread, -, hc, -⟩ := h
  obtain ⟨_, _, ⟨⟩, hread', -, hc', -⟩ := h'
  cases hread.symm.trans hread'
  exact Option.some.inj (hc.symm.trans hc')

theorem heard_opening_iff {x : G.Scalar} :
    (Attempt.heard ((keyOf trapdoor).checkOpening challengeSession c) frame? = .ok x ∧
        ∃ e, Challenge.ofScalarEncoding role.soundness (G.encodeScalar x) = .ok e) ↔
      role.Opens trapdoor c frame? x := by
  rw [Attempt.heard_eq_ok_iff (fun message x => Key.checkOpening_eq_ok_iff),
    Challenge.exists_ofScalarEncoding_iff]
  exact Iff.rfl

/-- Over a sound line, whoever opens its commitment gets the response. -/
theorem Released.result_eq_ok {inbox : List Bytes} {traffic : List Activity}
    {result : Except ProtocolError Unit} {x : G.Scalar}
    (h : role.Released S w r trapdoor inbox (fun _ => true) traffic result)
    (hc : Commits G inbox[0]? c) (hx : role.Opens trapdoor c inbox[1]? x) : result = .ok () := by
  cases h with
  | unkeyed hkey => cases hkey
  | uncommitted hkey hc' => exact absurd hc (hc' _)
  | unannounced hkey hc' ha => cases ha
  | unopened hkey hc' ha hx' =>
    cases hc.eq hc'
    exact absurd hx (hx' _)
  | unanswered hkey hc' ha hx' hz => cases hz
  | answered => rfl

theorem onChannel_proveKnowledge (role : SigmaRole G) (hw : S.holds w = true) (source : Source)
    (inbox : List Bytes) (line : Nat → Bool) :
    (role.proveKnowledge S w).OnChannel source inbox line (proverDraws G source = none)
      fun traffic result => ∃ r trapdoor, proverDraws G source = some (r, trapdoor) ∧
        role.Released S w r trapdoor inbox line traffic result := by
  unfold proveKnowledge announce
  rw [if_pos hw]
  simp only [bind_assoc, pure_bind, Receiver.join_eq, Receiver.receiveCommitment_eq]
  refine .scalar (fun hr => by simp [proverDraws, hr]) fun r source' hr => ?_
  refine .note ?_
  refine .scalar (fun ht => by simp [proverDraws, hr, ht]) fun trapdoor _ ht => ?_
  have hdraws : proverDraws G source = some (r, trapdoor) := by simp [proverDraws, hr, ht]
  refine .send (fun hkey => ?_) fun hkey => ⟨r, trapdoor, hdraws, .unkeyed hkey⟩
  refine .note ?_
  refine .hear List.head?_eq_getElem? (fun error hheard => ?_) fun ⟨id, c⟩ hheard => ?_
  · refine ⟨r, trapdoor, hdraws, .uncommitted hkey fun c hc => ?_⟩
    rw [heard_commitment_iff.2 hc] at hheard
    cases hheard
  refine .note ?_
  simp only
  split
  · rename_i hid
    subst hid
    have hc := heard_commitment_iff.1 hheard
    refine .send (fun ha => ?_) fun ha => ⟨r, trapdoor, hdraws, .unannounced hkey hc ha⟩
    rw [Receiver.receiveOpening_eq _ _ (Receiver.find?_opened _ _ _)]
    simp only [bind_assoc, pure_bind]
    refine .hear List.head?_tail (fun error hheard => ?_) fun x hheard => ?_
    · refine ⟨r, trapdoor, hdraws, .unopened hkey hc ha fun x hx => ?_⟩
      have hok := (heard_opening_iff.2 hx).1
      cases hok.symm.trans hheard
    refine .note ?_
    refine .judge (fun cause he => ?_) fun e he => ?_
    · refine ⟨r, trapdoor, hdraws, .unopened hkey hc ha fun x' hx => ?_⟩
      obtain ⟨hok, e, he'⟩ := heard_opening_iff.2 hx
      cases hok.symm.trans hheard
      cases he'.symm.trans he
    have hx := heard_opening_iff.1 ⟨hheard, e, he⟩
    obtain ⟨hlen, rfl⟩ := Challenge.ofScalarEncoding_eq_ok_iff.1 he
    rw [respond_eq hlen]
    refine .send (fun hz => ?_) fun hz => ⟨r, trapdoor, hdraws, .unanswered hkey hc ha hx hz⟩
    exact .note (.pure ⟨r, trapdoor, hdraws, .answered hkey hc ha hx hz⟩)
  · rename_i hid
    refine .accuse ⟨r, trapdoor, hdraws, .uncommitted hkey fun c' hc => ?_⟩
    cases (heard_commitment_iff.2 hc).symm.trans hheard
    exact hid rfl

/-- The prover releases its response and its trapdoor only to a bound challenge. A wrong witness is
refused before anything is done. Otherwise the source alone determines the randomness and the
trapdoor, and whatever arrives and whatever becomes of what is sent, the run is one of `Released`:
the key goes out first, the announcement only after a commitment to a challenge, and the response
`r + x * w` with the trapdoor only after the opening of that commitment to the challenge `x`. -/
theorem response_released (role : SigmaRole G) (S : Statement G k) (w : G.Scalar)
    (source : Source) :
    (S.holds w = false → ∀ inbox line, (role.proveKnowledge S w).run.run ⟨source, inbox, line⟩ =
      some ⟨.error (.input .witnessMismatch), ⟨source, inbox, line⟩, []⟩) ∧
    (S.holds w = true → proverDraws G source = none →
      ∀ inbox line, (role.proveKnowledge S w).run.run ⟨source, inbox, line⟩ = none) ∧
    (S.holds w = true → ∀ r trapdoor, proverDraws G source = some (r, trapdoor) →
      ∀ inbox line, ∃ o, (role.proveKnowledge S w).run.run ⟨source, inbox, line⟩ = some o ∧
        role.Released S w r trapdoor inbox line o.traffic o.result) := by
  refine ⟨fun hw inbox line => ?_, fun hw hdraws inbox line => ?_,
    fun hw r trapdoor hdraws inbox line => ?_⟩
  · unfold proveKnowledge announce
    rw [if_neg (by simp [hw])]
    rfl
  · have hchannel := onChannel_proveKnowledge role hw source inbox line
    rcases hrun : (role.proveKnowledge S w).run.run ⟨source, inbox, line⟩ with _ | o
    · rfl
    · obtain ⟨r, trapdoor, hsome, -⟩ := Program.Ensures.outcome hchannel hrun
      rw [hdraws] at hsome
      cases hsome
  · have hchannel := onChannel_proveKnowledge role hw source inbox line
    obtain ⟨o, hrun, r', trapdoor', hsome, hreleased⟩ :=
      Program.Ensures.exists_outcome hchannel (by rw [hdraws]; simp)
    rw [hdraws] at hsome
    cases hsome
    exact ⟨o, hrun, hreleased⟩

/-- A commitment to the challenge five under the key of the trapdoor zero, and its opening. -/
def fiveCommitted : List Bytes :=
  [Wire.write (CommitmentMessage.mk challengeSession
      (Residues.order281.group.encode ((keyOf (zero _)).commitment (scalar _ 5) (scalar _ 3)))),
    Wire.write (OpeningMessage.mk challengeSession
      (encodeScalar Residues.order281.group (scalar _ 5))
      (encodeScalar Residues.order281.group (scalar _ 3)))]

theorem response_released_order281 :
    (order281.proveKnowledge seven (scalar _ 8)).run.run (.fresh (.constant 0)) =
      some ⟨.error (.input .witnessMismatch), .fresh (.constant 0), []⟩ ∧
    (order281.proveKnowledge seven (scalar _ 7)).run.run (.fresh (.constant 255)) = none ∧
    ∃ o, (order281.proveKnowledge seven (scalar _ 7)).run.run
        ⟨.constant 0, fiveCommitted, fun _ => true⟩ = some o ∧ o.result = .ok () ∧
      order281.Released seven (scalar _ 7) (zero _) (zero _) fiveCommitted (fun _ => true)
        o.traffic o.result := by
  have hseven : seven.holds (scalar _ 7) = true := Statement.holds_iff.2 (by decide)
  have height : seven.holds (scalar _ 8) = false := by
    rw [Bool.eq_false_iff, ne_eq, Statement.holds_iff]
    decide
  refine ⟨(response_released order281 seven (scalar _ 8) (.constant 0)).1 height [] _,
    (response_released order281 seven (scalar _ 7) (.constant 255)).2.1 hseven rfl [] _, ?_⟩
  obtain ⟨o, hrun, hreleased⟩ := (response_released order281 seven (scalar _ 7)
    (.constant 0)).2.2 hseven _ _ rfl fiveCommitted fun _ => true
  have hc : Commits Residues.order281.group fiveCommitted[0]?
      ((keyOf (zero _)).commitment (scalar _ 5) (scalar _ 3)) :=
    ⟨_, _, rfl, rfl, rfl, rfl, by decide⟩
  have hx : order281.Opens (zero _) ((keyOf (zero _)).commitment (scalar _ 5) (scalar _ 3))
      fiveCommitted[1]? (scalar _ 5) := heard_opening_iff.1 ⟨rfl, _, rfl⟩
  exact ⟨o, hrun, hreleased.result_eq_ok hc hx, hreleased⟩

end SigmaRole

end TwoParty
