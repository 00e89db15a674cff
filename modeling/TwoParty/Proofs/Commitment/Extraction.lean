/-
The two ways to open a Pedersen commitment agree. An opening is accepted exactly if its randomness
is a witness of the statement that would be proven in its place; so the proof of a recorded value is
never refused, and whoever answers two challenges after one announcement gives away the randomness
with which the commitment opens to the value.
-/
import TwoParty.Proofs.Commitment.Refusals
import TwoParty.Proofs.Commitment.Trapdoor
import TwoParty.Proofs.Sigma.Examination

namespace TwoParty.Pedersen

open CyclicGroup

variable {G : CyclicGroup}

/-! ## The statement of a value -/

namespace Key

variable (hG : G.PrimeOrder) {key : Key G} {c : G.Element}
include hG

/-- The witnesses are the randomness with which the commitment opens to the value. -/
theorem holds_openingStatement_iff (hg : key.g = G.generator) (hh : G.isMember key.h = true)
    (hc : G.isMember c = true) {x r : G.Scalar} :
    (key.openingStatement c x).holds r = true ↔ key.commitment x r = c := by
  obtain ⟨g, h⟩ := key
  obtain rfl : g = G.generator := hg
  obtain ⟨η, rfl⟩ := hG.exists_antilog hh
  obtain ⟨γ, rfl⟩ := hG.exists_antilog hc
  unfold openingStatement
  rw [Statement.holds_logarithm_iff, commitment_antilog hG, hG.exponentiateInverse_antilog,
    hG.multiply_antilog, exponentiateGenerator_eq_antilog, hG.antilog_inj, hG.antilog_inj,
    ← sub_eq_add_neg, eq_sub_iff_add_eq]

/-- There is one such randomness at most. -/
theorem witness_unique {x r r' : G.Scalar} (h : (key.openingStatement c x).holds r = true)
    (h' : (key.openingStatement c x).holds r' = true) : r' = r := by
  unfold openingStatement at h h'
  rw [Statement.holds_logarithm_iff] at h h'
  exact hG.logarithm_unique _ _ (h'.trans h.symm)

end Key

/-! ## Proofs of a value -/

/-- The session and the value that a message writes. -/
def ValueMessage.Writes (message : ValueMessage) (value : SessionId × G.Scalar) : Prop :=
  message.id = value.1 ∧ G.decodeScalar? message.x = some value.2

namespace Receiver

variable {receiver : Receiver G} {id : SessionId} {c : G.Element}

/-- The check of a value, before it is proven. -/
def checkValue (id : SessionId) (message : ValueMessage) : Except Cheating G.Scalar := do
  checkSession id message.id
  G.decodeReceivedScalar "x" message.x

theorem checkValue_eq_ok_iff {message : ValueMessage} {x : G.Scalar} :
    checkValue id message = .ok x ↔ message.Writes (id, x) := by
  unfold checkValue ValueMessage.Writes
  simp only [bind_eq_ok_iff, checkSession_eq_ok_iff, decodeReceivedScalar_eq_ok_iff, exists_const]

theorem heard_value_iff {frame? : Option Bytes} {x : G.Scalar} :
    Attempt.heard (checkValue id) frame? = .ok x ↔ Conveys ValueMessage.Writes frame? (id, x) :=
  Attempt.heard_eq_ok_iff fun _ _ => checkValue_eq_ok_iff

theorem verifyValue_eq (receiver : Receiver G) (id : SessionId)
    (hfind : receiver.commitments.find? id = some c) :
    (verifyValue id).runIn receiver = do
      let x ← Attempt.judge receiver.role.span (checkValue id (← Attempt.receive ValueMessage))
      if ← receiver.role.receiveProof (receiver.key.openingStatement c x) then
        Attempt.note ⟨.debug, "committed value verified", [("session", toString id)],
          receiver.role.span⟩
        return (x, receiver)
      else
        return (← Attempt.judge receiver.role.span (.error .invalidProof), receiver) := by
  rw [runIn_verifyValue receiver id hfind]
  congr 1
  funext message
  unfold checkValue
  rw [← Attempt.judge_judge]

/-- The value and the transcript that a run has before it: what the frames convey that wait for it,
and the challenge that it draws. -/
structure Saw (receiver : Receiver G) (id : SessionId) (p : Endpoint) (x : G.Scalar)
    (t : Transcript G 1) : Prop where
  value : Conveys ValueMessage.Writes p.inbox[0]? (id, x)
  announcement : ConveysAnnouncement p.inbox[1]? t.a
  challenge : t.e = receiver.role.challengeOf p.source
  response : ConveysReply p.inbox[2]? t.z

/-- A run has one value and one transcript before it. -/
theorem Saw.unique {p : Endpoint} {x x' : G.Scalar} {t t' : Transcript G 1}
    (h : receiver.Saw id p x t) (h' : receiver.Saw id p x' t') : x' = x ∧ t' = t := by
  have hx := (heard_value_iff.2 h.value).symm.trans (heard_value_iff.2 h'.value)
  have ha := (heard_announcement_iff.2 h.announcement).symm.trans
    (heard_announcement_iff.2 h'.announcement)
  have hz := (heard_reply_iff.2 h.response).symm.trans (heard_reply_iff.2 h'.response)
  have he := h.challenge.trans h'.challenge.symm
  obtain ⟨a, e, z⟩ := t
  obtain ⟨a', e', z'⟩ := t'
  cases hx
  cases ha
  cases hz
  cases he
  exact ⟨rfl, rfl⟩

/-- The exact outcome of a verification: a value is accepted if the challenge gets through and the
run has an accepted transcript before it, and the receiver stays as it was. -/
structure VerifiedExactly (receiver : Receiver G) (id : SessionId) (c : G.Element) (p : Endpoint)
    (o : Outcome (Except ProtocolError (G.Scalar × Receiver G))) : Prop where
  accepted_iff (y : G.Scalar × Receiver G) : o.result = .ok y ↔ p.line 0 = true ∧ ∃ x t,
    y = (x, receiver) ∧ receiver.Saw id p x t ∧
      receiver.role.Accepts (receiver.key.openingStatement c x) t
  sent_eq (y : G.Scalar × Receiver G) (hresult : o.result = .ok y) :
    o.sent = [Wire.write (receiver.role.challengeOf p.source)]

/-- After the value the frames are those of a proof. -/
theorem saw_iff {p : Endpoint} {x : G.Scalar}
    (hx : Attempt.heard (checkValue id) p.inbox[0]? = .ok x) {traffic : List Activity}
    {left : Source} {result : Except ProtocolError Bool}
    (h : receiver.role.Examined (receiver.key.openingStatement c x) p.source p.inbox.tail p.line
      traffic left result) (y : G.Scalar × Receiver G) :
    (p.line 0 = true ∧ ∃ x t, y = (x, receiver) ∧ receiver.Saw id p x t ∧
        receiver.role.Accepts (receiver.key.openingStatement c x) t) ↔
      result = .ok true ∧ y = (x, receiver) := by
  rw [h.accepted_iff, List.getElem?_tail, List.getElem?_tail]
  constructor
  · rintro ⟨hline, x', t, rfl, hsaw, haccepts⟩
    obtain rfl : x = x' := Except.ok.inj (hx.symm.trans (heard_value_iff.2 hsaw.value))
    obtain ⟨a, e, z⟩ := t
    obtain rfl : e = receiver.role.challengeOf p.source := hsaw.challenge
    exact ⟨⟨hline, a, z, hsaw.announcement, hsaw.response,
      SigmaRole.accepts_iff_verdict.1 haccepts⟩, rfl⟩
  · rintro ⟨⟨hline, a, z, ha, hz, hverdict⟩, rfl⟩
    exact ⟨hline, x, _, rfl, ⟨heard_value_iff.1 hx, ha, rfl, hz⟩,
      SigmaRole.accepts_iff_verdict.2 hverdict⟩

theorem ensures_verifyValue (hfind : receiver.commitments.find? id = some c) (p : Endpoint) :
    ((verifyValue id).runIn receiver).Ensures p False fun o =>
      receiver.VerifiedExactly id c p o := by
  rw [verifyValue_eq _ _ hfind]
  refine .hear List.head?_eq_getElem? (fun error hx => ?_) fun x hx => ?_
  · refine ⟨fun y => iff_of_false nofun ?_, nofun⟩
    rintro ⟨-, x, t, -, hsaw, -⟩
    cases hx.symm.trans (heard_value_iff.2 hsaw.value)
  refine .call (SigmaRole.ensures_receiveProof _ _ _) (fun o error hexamined hresult => ?_)
    fun o proven hexamined hresult => ?_
  · refine ⟨fun y => iff_of_false nofun ?_, nofun⟩
    rw [saw_iff hx hexamined, hresult]
    exact nofun
  cases proven with
  | false =>
    refine .judge (fun cause _ => ⟨fun y => iff_of_false nofun ?_, nofun⟩) nofun
    rw [saw_iff hx hexamined, hresult]
    exact nofun
  | true =>
    refine .note (.pure ⟨fun y => ?_, fun _ _ => ?_⟩)
    · rw [saw_iff hx hexamined, and_iff_right hresult]
      exact ⟨fun h => (Except.ok.inj h).symm, fun h => congrArg Except.ok h.symm⟩
    · have hsent : o.sent = [Wire.write (receiver.role.challengeOf p.source)] :=
        o.sent_eq_of_traffic (hexamined.traffic_of_ok hresult)
      rw [← hsent]
      simp [Outcome.sent, Outcome.after, Outcome.andThen]

/-- Some run accepts the value `x` with the transcript before it. -/
def Verifies (receiver : Receiver G) (id : SessionId) (x : G.Scalar) (t : Transcript G 1) : Prop :=
  ∃ p o, ((verifyValue id).runIn receiver).run.run p = some o ∧ o.result = .ok (x, receiver) ∧
    receiver.Saw id p x t

theorem Verifies.verdict (hfind : receiver.commitments.find? id = some c) {x : G.Scalar}
    {t : Transcript G 1} (h : receiver.Verifies id x t) :
    receiver.role.verdict (receiver.key.openingStatement c x) t = true := by
  obtain ⟨p, o, hrun, hresult, hsaw⟩ := h
  have hexact := (ensures_verifyValue hfind p).outcome hrun
  obtain ⟨-, x', t', -, hsaw', haccepts⟩ := (hexact.accepted_iff _).1 hresult
  obtain ⟨rfl, rfl⟩ := hsaw.unique hsaw'
  exact SigmaRole.accepts_iff_verdict.1 haccepts

/-- What an accepted transcript has before it is accepted. -/
theorem verifies_of_accepts (hfind : receiver.commitments.find? id = some c) {p : Endpoint}
    (hline : p.line 0 = true) {x : G.Scalar} {t : Transcript G 1} (hsaw : receiver.Saw id p x t)
    (h : receiver.role.Accepts (receiver.key.openingStatement c x) t) :
    receiver.Verifies id x t := by
  obtain ⟨o, hrun, hexact⟩ := (ensures_verifyValue hfind p).exists_outcome not_false
  exact ⟨p, o, hrun, (hexact.accepted_iff _).2 ⟨hline, x, t, rfl, hsaw, h⟩, hsaw⟩

/-! ## Both ways -/

/-- The two ways to open the commitment `c` of a session decide the same: an opening is accepted
exactly if its randomness is a witness of the statement that would be proven, and two proofs with
one announcement yield the randomness of the only opening that is accepted. -/
structure OpensBothWays (receiver : Receiver G) (id : SessionId) (c : G.Element) : Prop where
  opening (p : Endpoint) (x r : G.Scalar)
    (hframe : Conveys OpeningMessage.Writes p.inbox.head? (id, x, r)) :
    ∃ o, ((receiveOpening id).runIn receiver).run.run p = some o ∧
      o.result = if (receiver.key.openingStatement c x).holds r then .ok (x, receiver)
        else .error (.cheating (.openingMismatch id))
  accepts_iff (x r : G.Scalar) :
    receiver.Accepts id x r ↔ (receiver.key.openingStatement c x).holds r = true
  /-- A proof is accepted exactly after an accepted transcript. -/
  verified (p : Endpoint) : ∃ o, ((verifyValue id).runIn receiver).run.run p = some o ∧
    receiver.VerifiedExactly id c p o
  /-- The other proof may be one to another receiver, or to this one at another time. -/
  extracted (other : Receiver G) (id' : SessionId) (hrole : other.role = receiver.role)
    (hkey : other.key = receiver.key) (hfind : other.commitments.find? id' = some c)
    (x : G.Scalar) (t t' : Transcript G 1) (h : receiver.Verifies id x t)
    (h' : other.Verifies id' x t') (ha : t'.a = t.a) (hne : t.e ≠ t'.e) :
    toZMod (t.e.scalar G) - toZMod (t'.e.scalar G) ≠ 0 ∧
      ∀ r, receiver.Accepts id x r ↔ r = SigmaRole.extract t.e t'.e t.z t'.z

theorem opensBothWays (hG : G.PrimeOrder) (hg : receiver.key.g = G.generator)
    (hh : G.isMember receiver.key.h = true) (hfind : receiver.commitments.find? id = some c)
    (hc : G.isMember c = true) : receiver.OpensBothWays id c := by
  have hholds (x r) := Key.holds_openingStatement_iff hG hg hh hc (x := x) (r := r)
  have haccepts (x r) : receiver.Accepts id x r ↔
      (receiver.key.openingStatement c x).holds r = true :=
    (accepts_iff hG hfind).trans (hholds x r).symm
  constructor
  case opening =>
    intro p x r hframe
    obtain ⟨o, hrun, hok, herror⟩ :=
      (ensures_conveyed_opening hfind hframe).exists_outcome not_false
    refine ⟨o, hrun, ?_⟩
    split
    · rename_i h; exact hok ((hholds x r).1 h)
    · rename_i h; exact herror fun heq => h ((hholds x r).2 heq)
  case accepts_iff => exact haccepts
  case verified => exact fun p => (ensures_verifyValue hfind p).exists_outcome not_false
  case extracted =>
    intro other id' hrole hkey hfind' x t t' h h' ha hne
    have hverdict := h.verdict hfind
    have hverdict' := h'.verdict hfind'
    rw [hrole, hkey] at hverdict'
    obtain ⟨a, e, z⟩ := t
    obtain ⟨a', e', z'⟩ := t'
    obtain rfl : a' = a := ha
    have hextract := SigmaRole.holds_extract hG hverdict hverdict' hne
    refine ⟨SigmaRole.sub_ne_zero_of_verdict hverdict hverdict' hne, fun r => ?_⟩
    rw [haccepts]
    constructor
    · exact Key.witness_unique hG hextract
    · rintro rfl
      exact hextract

end Receiver

namespace Committer

/-- The proof of a value is not refused as one of a false statement, whatever was called before. -/
theorem Sound.prove_ne_witnessMismatch {committer : Committer G} (hG : G.PowerLaws)
    (h : committer.Sound) {id : SessionId} {e : Endpoint}
    {o : Outcome (Except ProtocolError Unit × Committer G)}
    (hrun : ((prove id).run committer).run e = some o) :
    o.result.1 ≠ .error (.input .witnessMismatch) := by
  intro hresult
  have hrefuses := h.refuses_reveal hG .proof id
  rcases hrefusal : (scheme G).revealRefusal? committer id with _ | error
  · cases hrefuses.never hrefusal e o _ hrun hresult
  · -- an unknown session is another error
    have hunknown : error = .input (.unknownSession id) := by
      unfold Scheme.revealRefusal? at hrefusal
      split at hrefusal
      · cases hrefusal
      · exact (Option.some.inj hrefusal).symm
    have hat := hrefuses.atOnce error hrefusal e
    cases hrun.symm.trans hat
    cases hunknown.symm.trans (Except.error.inj hresult)

end Committer

/-- For every key whose second base is a member, both ways to open a commitment decide the same, and
a committer with the key, after any calls, has the witnesses of its records, so that no proof of a
value fails for the lack of one. -/
theorem openings_equivalent (hG : G.PrimeOrder) {h : G.Element} (hh : G.isMember h = true) :
    (∀ (receiver : Receiver G) id c, receiver.key = ⟨G.generator, h⟩ →
      receiver.commitments.find? id = some c → G.isMember c = true →
      receiver.OpensBothWays id c) ∧
    ∀ (first : Committer G) calls committer id, first.key = ⟨G.generator, h⟩ →
      first.sessions = {} → Calls (scheme G).perform first calls committer →
      (∀ record, committer.sessions.find? id = some record →
        (committer.key.openingStatement record.commitment record.value).holds record.randomness =
          true) ∧
      ∀ e o, ((Committer.prove id).run committer).run e = some o →
        o.result.1 ≠ .error (.input .witnessMismatch) := by
  constructor
  · intro receiver id c hkey hfind hc
    exact Receiver.opensBothWays hG (by rw [hkey]) (by rw [hkey]; exact hh) hfind hc
  · intro first calls committer id hkey hsessions hcalls
    have hfirst : first.Sound :=
      ⟨by rw [hkey], by rw [hkey]; exact hh, by rw [hsessions]; exact .empty⟩
    have hsound := hfirst.calls hcalls
    refine ⟨fun record hfind => ?_, fun e o => hsound.prove_ne_witnessMismatch hG.powerLaws⟩
    rw [hsound.opens id record hfind]
    exact Key.holds_openingStatement hsound.isMember_h hG.powerLaws hsound.g_eq _ _

namespace Receiver

/-- The announcement with the logarithm three. -/
def announced : Announcement Residues.order281.group 1 :=
  #v[exponentiateGenerator _ (scalar _ 3)]

/-- A proof of the value five has come, and `byte` is drawn throughout. -/
def proven (byte : UInt8) (z : Nat) : Endpoint :=
  (Endpoint.fresh (.constant byte)).deliver
    [Wire.write (ValueMessage.mk 1 (encodeScalar Residues.order281.group (scalar _ 5))),
      Wire.write (AnnouncementMessage.encode announced),
      Wire.write (ResponseMessage.encode (scalar Residues.order281.group z))]

/-- The responses to the challenges one and two are accepted, and give away the randomness eleven of
the only opening to five that is accepted. A committer with the key has the witness of what it has
committed to. -/
theorem openings_equivalent_three :
    three.Verifies 1 (scalar _ 5) ⟨announced, ⟨[1]⟩, scalar _ 14⟩ ∧
      three.Verifies 1 (scalar _ 5) ⟨announced, ⟨[2]⟩, scalar _ 25⟩ ∧
      (∀ r, three.Accepts 1 (scalar _ 5) r ↔ r = scalar _ 11) ∧
      ∃ calls committer record,
        Calls (scheme Residues.order281.group).perform ⟨.order281, three.key, {}⟩ calls committer ∧
        committer.sessions.find? 1 = some record ∧
        (committer.key.openingStatement record.commitment record.value).holds record.randomness =
          true := by
  have hh : Residues.order281.group.isMember three.key.h = true := by decide
  obtain ⟨hreceiver, hcommitter⟩ := openings_equivalent Residues.primeOrder_order281 hh
  have hfind : three.commitments.find? 1 =
      some ((keyOf (scalar _ 3)).commitment (scalar _ 5) (scalar _ 11)) := rfl
  have hone : three.Verifies 1 (scalar _ 5) ⟨announced, ⟨[1]⟩, scalar _ 14⟩ :=
    verifies_of_accepts hfind (p := proven 1 14) rfl
      ⟨⟨_, _, rfl, rfl, rfl, rfl⟩, ⟨_, _, rfl, rfl, .cons ⟨rfl, rfl⟩ .nil⟩, rfl,
        ⟨_, _, rfl, rfl, rfl⟩⟩
      (SigmaRole.accepts_iff_verdict.2 (by decide +kernel))
  have htwo : three.Verifies 1 (scalar _ 5) ⟨announced, ⟨[2]⟩, scalar _ 25⟩ :=
    verifies_of_accepts hfind (p := proven 2 25) rfl
      ⟨⟨_, _, rfl, rfl, rfl, rfl⟩, ⟨_, _, rfl, rfl, .cons ⟨rfl, rfl⟩ .nil⟩, rfl,
        ⟨_, _, rfl, rfl, rfl⟩⟩
      (SigmaRole.accepts_iff_verdict.2 (by decide +kernel))
  have hboth := hreceiver three 1 _ rfl hfind (by decide)
  obtain ⟨-, hextract⟩ := hboth.extracted three 1 rfl rfl hfind _ _ _ hone htwo rfl (by decide)
  have hnone : Calls (scheme Residues.order281.group).perform ⟨.order281, three.key, {}⟩ [] _ :=
    .nil
  have hcalls := hnone.snoc (.commit (scalar _ 5) 1) (.fresh (.constant 1)) rfl
  obtain ⟨hholds, -⟩ := hcommitter _ _ _ 1 rfl rfl hcalls
  have heleven : SigmaRole.extract (G := Residues.order281.group) ⟨[1]⟩ ⟨[2]⟩ (scalar _ 14)
      (scalar _ 25) = scalar _ 11 := by decide +kernel
  refine ⟨hone, htwo, fun r => ?_, _, _, _, hcalls, rfl, hholds _ rfl⟩
  rw [hextract, heleven]

end Receiver

end TwoParty.Pedersen
