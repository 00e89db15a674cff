/-
A verifier of knowledge against any prover. It reads a key, an announcement and a response, and
commits to its challenge before the announcement; each frame either conveys what it should or has a
flaw that is the result. A proof is decided only when all three frames convey something, and then
by the conjunction of all conditions.
-/
import TwoParty.Proofs.Sigma.Prover

namespace TwoParty

open CyclicGroup Pedersen

variable {G : CyclicGroup} {k : Nat}

/-! ## What the verifier hears -/

namespace Pedersen.KeyMessage

def decode (G : CyclicGroup) (message : KeyMessage) : Except Cheating G.Element :=
  G.decodeMember "h" message.h

end Pedersen.KeyMessage

namespace KnowledgeMessage

/-- Reads the response and the trapdoor. -/
def decode (G : CyclicGroup) (message : KnowledgeMessage) :
    Except Cheating (G.Scalar × G.Scalar) := do
  return (← message.z.decode G, ← G.decodeReceivedScalar "trapdoor" message.trapdoor)

variable {message : KnowledgeMessage}

theorem decode_eq_ok_iff {p : G.Scalar × G.Scalar} : decode G message = .ok p ↔
    G.decodeScalar? message.z.z = some p.1 ∧ G.decodeScalar? message.trapdoor = some p.2 := by
  unfold decode ResponseMessage.decode
  simp only [bind_eq_ok_iff, decodeReceivedScalar_eq_ok_iff, pure, Except.pure, Except.ok.injEq]
  constructor
  · rintro ⟨z, hz, trapdoor, ht, rfl⟩
    exact ⟨hz, ht⟩
  · rintro ⟨hz, ht⟩
    exact ⟨_, hz, _, ht, rfl⟩

theorem decode_eq_error_iff {cause : Cheating} : decode G message = .error cause ↔
    G.decodeScalar? message.z.z = none ∧ cause = .invalidScalar "z" ∨
    (∃ z, G.decodeScalar? message.z.z = some z) ∧ G.decodeScalar? message.trapdoor = none ∧
      cause = .invalidScalar "trapdoor" := by
  unfold decode ResponseMessage.decode
  simp only [bind_eq_error_iff, decodeReceivedScalar_eq_ok_iff, decodeReceivedScalar_eq_error_iff,
    pure, Except.pure, reduceCtorEq, and_false, exists_const, or_false, exists_and_right]

end KnowledgeMessage

/-- The frame conveys a member of the group, as the key. -/
def ConveysKey (G : CyclicGroup) (frame? : Option Bytes) (h : G.Element) : Prop :=
  Conveys (fun (m : KeyMessage) h => G.Describes m.h h) frame? h

def FlawedKey (G : CyclicGroup) (frame? : Option Bytes) (error : ProtocolError) : Prop :=
  Flawed (fun (m : KeyMessage) cause => (∀ h, ¬ G.Describes m.h h) ∧ cause = .notMember "h")
    frame? error

/-- The frame conveys an announcement: as many members of the group as there are equations. -/
def ConveysAnnouncement (frame? : Option Bytes) (a : Announcement G k) : Prop :=
  Conveys (fun (m : AnnouncementMessage) (a : Announcement G k) =>
    List.Forall₂ G.Describes m.elements a.toList) frame? a

def FlawedAnnouncement (G : CyclicGroup) (k : Nat) (frame? : Option Bytes)
    (error : ProtocolError) : Prop :=
  Flawed (fun (m : AnnouncementMessage) cause =>
    m.elements.length ≠ k ∧ cause = .announcementLength k m.elements.length ∨
    m.elements.length = k ∧ (∃ bytes ∈ m.elements, ∀ a, ¬ G.Describes bytes a) ∧
      cause = .notMember "a") frame? error

/-- The frame conveys a response and a trapdoor, both in canonical form. -/
def ConveysResponse (frame? : Option Bytes) (z trapdoor : G.Scalar) : Prop :=
  Conveys (fun (m : KnowledgeMessage) (p : G.Scalar × G.Scalar) =>
    G.decodeScalar? m.z.z = some p.1 ∧ G.decodeScalar? m.trapdoor = some p.2) frame? (z, trapdoor)

def FlawedResponse (G : CyclicGroup) (frame? : Option Bytes) (error : ProtocolError) : Prop :=
  Flawed (fun (m : KnowledgeMessage) cause =>
    G.decodeScalar? m.z.z = none ∧ cause = .invalidScalar "z" ∨
    (∃ z, G.decodeScalar? m.z.z = some z) ∧ G.decodeScalar? m.trapdoor = none ∧
      cause = .invalidScalar "trapdoor") frame? error

section Heard

variable {frame? : Option Bytes} {error : ProtocolError}

theorem heard_key_iff {h : G.Element} :
    Attempt.heard (KeyMessage.decode G) frame? = .ok h ↔ ConveysKey G frame? h :=
  Attempt.heard_eq_ok_iff fun _ _ => decodeMember_eq_ok_iff

theorem heard_key_error_iff :
    Attempt.heard (KeyMessage.decode G) frame? = .error error ↔ FlawedKey G frame? error :=
  Attempt.heard_eq_error_iff fun _ _ => decodeMember_eq_error_iff

theorem heard_announcement_iff {a : Announcement G k} :
    Attempt.heard (AnnouncementMessage.decode G k) frame? = .ok a ↔ ConveysAnnouncement frame? a :=
  Attempt.heard_eq_ok_iff fun _ _ => AnnouncementMessage.decode_eq_ok_iff

theorem heard_announcement_error_iff :
    Attempt.heard (AnnouncementMessage.decode G k) frame? = .error error ↔
      FlawedAnnouncement G k frame? error :=
  Attempt.heard_eq_error_iff fun _ _ => AnnouncementMessage.decode_eq_error_iff

theorem heard_response_iff {z trapdoor : G.Scalar} :
    Attempt.heard (KnowledgeMessage.decode G) frame? = .ok (z, trapdoor) ↔
      ConveysResponse frame? z trapdoor :=
  Attempt.heard_eq_ok_iff fun _ _ => KnowledgeMessage.decode_eq_ok_iff

theorem heard_response_error_iff :
    Attempt.heard (KnowledgeMessage.decode G) frame? = .error error ↔
      FlawedResponse G frame? error :=
  Attempt.heard_eq_error_iff fun _ _ => KnowledgeMessage.decode_eq_error_iff

theorem ConveysKey.not_flawed {h : G.Element} (hkey : ConveysKey G frame? h) :
    ¬ FlawedKey G frame? error := by
  rw [← heard_key_iff] at hkey
  rw [← heard_key_error_iff, hkey]
  exact nofun

theorem ConveysAnnouncement.not_flawed {a : Announcement G k} (ha : ConveysAnnouncement frame? a) :
    ¬ FlawedAnnouncement G k frame? error := by
  rw [← heard_announcement_iff] at ha
  rw [← heard_announcement_error_iff, ha]
  exact nofun

end Heard

namespace SigmaRole

/-! ## The frames of a prover -/

section Frames

variable (hG : G.PrimeOrder)
include hG

theorem conveysKey_keyFrame (trapdoor : G.Scalar) :
    ConveysKey G (some (keyFrame trapdoor)) (keyOf trapdoor).h :=
  ⟨_, _, rfl, Wire.decode_write (hG.fits_element (isMember_keyOf hG trapdoor)),
    hG.decode?_encode _ (isMember_keyOf hG trapdoor), isMember_keyOf hG trapdoor⟩

theorem conveysAnnouncement_announcementFrame (hk : k < 2 ^ 64) {S : Statement G k}
    (hS : S.isValid = true) (r : G.Scalar) :
    ConveysAnnouncement (some (announcementFrame S r)) (S.commit r) := by
  have ha := Statement.isValid_commit hG hS r
  exact ⟨_, _, rfl, Wire.decode_write (AnnouncementMessage.fits_encode hG hk ha),
    AnnouncementMessage.decode_eq_ok_iff.1 (AnnouncementMessage.decode_encode hG ha)⟩

theorem conveysResponse_responseFrame (z trapdoor : G.Scalar) :
    ConveysResponse (some (responseFrame z trapdoor)) z trapdoor := by
  have hfits : Wire.Fits (KnowledgeMessage.mk (.encode z) (G.encodeScalar trapdoor)) :=
    ⟨hG.fits_scalar z, hG.fits_scalar trapdoor⟩
  exact ⟨_, _, rfl, Wire.decode_write hfits, decodeScalar?_encodeScalar z,
    decodeScalar?_encodeScalar trapdoor⟩

end Frames

/-! ## What the verifier sends -/

/-- The commitment to a challenge under the key `h`. -/
def commitmentFrame (h : G.Element) (e : Challenge) (opener : G.Scalar) : Bytes :=
  Wire.write (CommitmentMessage.mk challengeSession
    (G.encode (Key.commitment ⟨G.generator, h⟩ (e.scalar G) opener)))

def openingFrame (e : Challenge) (opener : G.Scalar) : Bytes :=
  Wire.write (OpeningMessage.mk challengeSession (G.encodeScalar (e.scalar G))
    (G.encodeScalar opener))

/-- The challenge, which the verifier draws first. -/
def challengeOf (role : SigmaRole G) (source : Source) : Challenge :=
  ⟨source.peek role.soundness.challengeLength⟩

/-- The randomness of the commitment, which the verifier draws after the challenge. -/
def openerOf? (role : SigmaRole G) (source : Source) : Option G.Scalar :=
  (G.nextScalar (source.advance role.soundness.challengeLength)).map Prod.fst

/-! ## The run -/

section Judged

variable (S : Statement G k) (e : Challenge) (opener? : Option G.Scalar) (inbox : List Bytes)
  (line : Nat → Bool)

/-- The traffic and the result of a verifier with the challenge `e`: how far it gets is up to the
frames that come to it and to the fate of what it sends. -/
inductive Judged : List Activity → Except ProtocolError Bool → Prop where
  | keyless {error : ProtocolError}
    (hkey : Attempt.heard (KeyMessage.decode G) inbox[0]? = .error error) :
    Judged [.received inbox[0]?] (.error error)
  | uncommitted {h : G.Element} {opener : G.Scalar}
    (hkey : Attempt.heard (KeyMessage.decode G) inbox[0]? = .ok h) (ho : opener? = some opener)
    (hc : line 0 = false) :
    Judged [.received inbox[0]?, .refused (commitmentFrame h e opener)]
      (.error (.channel .closed))
  | unannounced {h : G.Element} {opener : G.Scalar} {error : ProtocolError}
    (hkey : Attempt.heard (KeyMessage.decode G) inbox[0]? = .ok h) (ho : opener? = some opener)
    (hc : line 0 = true)
    (ha : Attempt.heard (AnnouncementMessage.decode G k) inbox[1]? = .error error) :
    Judged [.received inbox[0]?, .sent (commitmentFrame h e opener), .received inbox[1]?]
      (.error error)
  | unopened {h : G.Element} {opener : G.Scalar} {a : Announcement G k}
    (hkey : Attempt.heard (KeyMessage.decode G) inbox[0]? = .ok h) (ho : opener? = some opener)
    (hc : line 0 = true)
    (ha : Attempt.heard (AnnouncementMessage.decode G k) inbox[1]? = .ok a)
    (hx : line 1 = false) :
    Judged [.received inbox[0]?, .sent (commitmentFrame h e opener), .received inbox[1]?,
      .refused (openingFrame e opener)] (.error (.channel .closed))
  | unanswered {h : G.Element} {opener : G.Scalar} {a : Announcement G k} {error : ProtocolError}
    (hkey : Attempt.heard (KeyMessage.decode G) inbox[0]? = .ok h) (ho : opener? = some opener)
    (hc : line 0 = true)
    (ha : Attempt.heard (AnnouncementMessage.decode G k) inbox[1]? = .ok a)
    (hx : line 1 = true)
    (hz : Attempt.heard (KnowledgeMessage.decode G) inbox[2]? = .error error) :
    Judged [.received inbox[0]?, .sent (commitmentFrame h e opener), .received inbox[1]?,
      .sent (openingFrame e opener), .received inbox[2]?] (.error error)
  | decided {h : G.Element} {opener : G.Scalar} {a : Announcement G k} {z trapdoor : G.Scalar}
    (hkey : Attempt.heard (KeyMessage.decode G) inbox[0]? = .ok h) (ho : opener? = some opener)
    (hc : line 0 = true)
    (ha : Attempt.heard (AnnouncementMessage.decode G k) inbox[1]? = .ok a)
    (hx : line 1 = true)
    (hz : Attempt.heard (KnowledgeMessage.decode G) inbox[2]? = .ok (z, trapdoor)) :
    Judged [.received inbox[0]?, .sent (commitmentFrame h e opener), .received inbox[1]?,
      .sent (openingFrame e opener), .received inbox[2]?]
      (.ok (decide (G.exponentiateGenerator trapdoor = h) && S.isValid &&
        S.check a (e.scalar G) z))

end Judged

variable (role : SigmaRole G) (S : Statement G k)

theorem length_challengeOf (source : Source) :
    (role.challengeOf source).bytes.length = role.soundness.challengeLength :=
  Source.length_peek _ _

theorem yields_challenge (source : Source) : (Attempt.of role.challenge).Yields source
    (role.challengeOf source, source.advance role.soundness.challengeLength) :=
  .of (Challenge.yields_random _ _)

omit S in
/-- The challenge is the next of the source, whatever was done before. -/
theorem ensures_challenge_bind {β : Type} {f : Challenge → Attempt β} {p : Endpoint} {stuck : Prop}
    {Q : Outcome (Except ProtocolError β) → Prop}
    (h : (f (role.challengeOf p.source)).Ensures
      { p with source := p.source.advance role.soundness.challengeLength } stuck Q) :
    (Attempt.of role.challenge >>= f).Ensures p stuck Q := h

variable {role} in
/-- On an announcement of members the verdict is that of the statement and the equation. -/
theorem verdict_of_heard {frame? : Option Bytes} {a : Announcement G k} {e : Challenge}
    (he : e.bytes.length = role.soundness.challengeLength)
    (ha : Attempt.heard (AnnouncementMessage.decode G k) frame? = .ok a) (z : G.Scalar) :
    role.verdict S ⟨a, e, z⟩ = (S.isValid && S.check a (e.scalar G) z) := by
  obtain ⟨message, -, hdecode⟩ := bind_eq_ok_iff.1 ha
  have hvalid := AnnouncementMessage.isValid_of_decode (mapError_eq_ok_iff.1 hdecode)
  unfold verdict
  simp [he, hvalid]

theorem onChannel_receiveKnowledge (source : Source) (inbox : List Bytes) (line : Nat → Bool) :
    (role.receiveKnowledge S).OnChannel source inbox line (role.openerOf? source = none)
      (Judged S (role.challengeOf source) (role.openerOf? source) inbox line) := by
  have hthird : inbox.tail.tail.head? = inbox[2]? := by
    rw [List.head?_tail, List.getElem?_tail]
  have he := length_challengeOf role source
  unfold receiveKnowledge Committer.join
  simp only [bind_assoc, pure_bind, Attempt.judge_pair]
  refine .hear List.head?_eq_getElem? (fun error hkey => .keyless hkey) fun h hkey => ?_
  refine .note (.yields (yields_challenge role source) ?_)
  rw [Challenge.valueOfBytes_eq he, Attempt.require_ok, pure_bind, Committer.runIn_commit _ _ _ rfl]
  simp only [bind_assoc, pure_bind]
  refine .scalar (fun hnone => by simp [openerOf?, hnone]) fun opener source' hsome => ?_
  have ho : role.openerOf? source = some opener := by simp [openerOf?, hsome]
  refine .send (fun hc => ?_) fun hc => .uncommitted hkey ho hc
  refine .note ?_
  refine .hear List.head?_tail (fun error ha => .unannounced hkey ho hc ha) fun a ha => ?_
  rw [Committer.runIn_decommit _ _ (Committer.find?_opened _ _ _ _)]
  simp only [bind_assoc, pure_bind]
  refine .send (fun hx => ?_) fun hx => .unopened hkey ho hc ha hx
  refine .note ?_
  refine .hear hthird (fun error hz => .unanswered hkey ho hc ha hx hz) fun ⟨z, trapdoor⟩ hz => ?_
  have hdecided := Judged.decided (S := S) (e := role.challengeOf source) hkey ho hc ha hx hz
  split
  · -- the trapdoor belongs to the key, so the transcript decides
    rename_i ht
    have htrapdoor : decide (G.exponentiateGenerator trapdoor = h) = true := ht
    refine .ends (yields_verify role S _ _) ?_
    rw [verdict_of_heard S he ha]
    rw [htrapdoor, Bool.true_and] at hdecided
    exact hdecided
  · rename_i ht
    have htrapdoor : decide (G.exponentiateGenerator trapdoor = h) = false :=
      Bool.eq_false_iff.2 ht
    rw [htrapdoor, Bool.false_and, Bool.false_and] at hdecided
    exact .note (.pure hdecided)

/-! ## The result -/

/-- What a convincing proof satisfies: the trapdoor belongs to the key, all elements of the
statement are members, and every equation is fulfilled. -/
def Convinces (S : Statement G k) (e : Challenge) (h : G.Element) (a : Announcement G k)
    (z trapdoor : G.Scalar) : Prop :=
  G.exponentiateGenerator trapdoor = h ∧ ∀ (i : Nat) (_ : i < k),
    G.isMember S[i].base = true ∧ G.isMember S[i].image = true ∧
    G.exponentiate S[i].base z = G.multiply a[i] (G.exponentiate S[i].image (e.scalar G))

variable {S} in
theorem convinces_iff {e : Challenge} {h : G.Element} {a : Announcement G k}
    {z trapdoor : G.Scalar} : (decide (G.exponentiateGenerator trapdoor = h) && S.isValid &&
      S.check a (e.scalar G) z) = true ↔ Convinces S e h a z trapdoor := by
  unfold Convinces
  rw [Bool.and_assoc, Bool.and_eq_true, decide_eq_true_iff, Statement.answeredBy_iff]
  exact Iff.rfl

/-- An honest response convinces under every challenge. -/
theorem convinces_respond (hG : G.PrimeOrder) {S : Statement G k} (hS : S.isValid = true)
    {w : G.Scalar} (hw : S.holds w = true) (e : Challenge) (r trapdoor : G.Scalar) :
    Convinces S e (keyOf trapdoor).h (S.commit r) (G.add r (G.mul (e.scalar G) w)) trapdoor := by
  rw [← convinces_iff, hS, Statement.check_respond hG hS hw]
  simp [keyOf]

/-- The verdict on three frames. -/
def knowledgeVerdict (S : Statement G k) (e : Challenge) (inbox : List Bytes) :
    Except ProtocolError Bool := do
  let h ← Attempt.heard (KeyMessage.decode G) inbox[0]?
  let a ← Attempt.heard (AnnouncementMessage.decode G k) inbox[1]?
  let (z, trapdoor) ← Attempt.heard (KnowledgeMessage.decode G) inbox[2]?
  return decide (G.exponentiateGenerator trapdoor = h) && S.isValid && S.check a (e.scalar G) z

variable {S} in
theorem Judged.result_eq {e : Challenge} {opener? : Option G.Scalar} {inbox : List Bytes}
    {traffic : List Activity} {result : Except ProtocolError Bool}
    (h : Judged S e opener? inbox (fun _ => true) traffic result) :
    result = knowledgeVerdict S e inbox := by
  unfold knowledgeVerdict
  cases h with
  | keyless hkey => rw [hkey]; rfl
  | uncommitted hkey ho hc => cases hc
  | unannounced hkey ho hc ha => rw [hkey, ha]; rfl
  | unopened hkey ho hc ha hx => cases hx
  | unanswered hkey ho hc ha hx hz => rw [hkey, ha, hz]; rfl
  | decided hkey ho hc ha hx hz => rw [hkey, ha, hz]; rfl

theorem knowledgeVerdict_eq_ok_iff {e : Challenge} {inbox : List Bytes} {b : Bool} :
    knowledgeVerdict S e inbox = .ok b ↔ ∃ h a z trapdoor, ConveysKey G inbox[0]? h ∧
      ConveysAnnouncement inbox[1]? a ∧ ConveysResponse inbox[2]? z trapdoor ∧
      (b = true ↔ Convinces S e h a z trapdoor) := by
  unfold knowledgeVerdict
  simp only [bind_eq_ok_iff, heard_key_iff, heard_announcement_iff, Prod.exists, heard_response_iff,
    pure, Except.pure, Except.ok.injEq]
  constructor
  · rintro ⟨h, hkey, a, ha, z, trapdoor, hz, rfl⟩
    exact ⟨h, a, z, trapdoor, hkey, ha, hz, convinces_iff⟩
  · rintro ⟨h, a, z, trapdoor, hkey, ha, hz, hb⟩
    exact ⟨h, hkey, a, ha, z, trapdoor, hz, Bool.eq_iff_iff.2 (convinces_iff.trans hb.symm)⟩

theorem knowledgeVerdict_eq_error_iff {e : Challenge} {inbox : List Bytes}
    {error : ProtocolError} : knowledgeVerdict S e inbox = .error error ↔
      FlawedKey G inbox[0]? error ∨ (∃ h, ConveysKey G inbox[0]? h) ∧
        (FlawedAnnouncement G k inbox[1]? error ∨
          (∃ a : Announcement G k, ConveysAnnouncement inbox[1]? a) ∧
            FlawedResponse G inbox[2]? error) := by
  unfold knowledgeVerdict
  simp only [bind_eq_error_iff, heard_key_iff, heard_key_error_iff, heard_announcement_iff,
    heard_announcement_error_iff, heard_response_error_iff, pure, Except.pure, reduceCtorEq,
    and_false, exists_const, or_false, exists_and_right]

variable {S} in
/-- What is sent: nothing without a key, and the opening only after an announcement. -/
theorem Judged.sent_eq {e : Challenge} {opener? : Option G.Scalar} {inbox : List Bytes}
    {traffic : List Activity} {result : Except ProtocolError Bool}
    (h : Judged S e opener? inbox (fun _ => true) traffic result)
    {o : Outcome (Except ProtocolError Bool)} (htraffic : o.traffic = traffic) :
    (∃ error, FlawedKey G inbox[0]? error) ∧ o.sent = [] ∨
    ∃ h opener, ConveysKey G inbox[0]? h ∧ opener? = some opener ∧
      ((∃ error, FlawedAnnouncement G k inbox[1]? error) ∧
          o.sent = [commitmentFrame h e opener] ∨
        (∃ a : Announcement G k, ConveysAnnouncement inbox[1]? a) ∧
          o.sent = [commitmentFrame h e opener, openingFrame e opener]) := by
  rw [o.sent_eq_of_traffic htraffic]
  simp only [← heard_key_iff, ← heard_key_error_iff, ← heard_announcement_iff,
    ← heard_announcement_error_iff]
  cases h with
  | keyless hkey => exact .inl ⟨⟨_, hkey⟩, rfl⟩
  | uncommitted hkey ho hc => cases hc
  | unannounced hkey ho hc ha => exact .inr ⟨_, _, hkey, ho, .inl ⟨⟨_, ha⟩, rfl⟩⟩
  | unopened hkey ho hc ha hx => cases hx
  | unanswered hkey ho hc ha hx hz => exact .inr ⟨_, _, hkey, ho, .inr ⟨⟨_, ha⟩, rfl⟩⟩
  | decided hkey ho hc ha hx hz => exact .inr ⟨_, _, hkey, ho, .inr ⟨⟨_, ha⟩, rfl⟩⟩

/-- The exact outcome of a verifier all of whose frames get through, for whatever comes to it. -/
structure Exact (source : Source) (inbox : List Bytes)
    (o : Outcome (Except ProtocolError Bool)) : Prop where
  accepts : o.result = .ok true ↔ ∃ h a z trapdoor, ConveysKey G inbox[0]? h ∧
    ConveysAnnouncement inbox[1]? a ∧ ConveysResponse inbox[2]? z trapdoor ∧
    Convinces S (role.challengeOf source) h a z trapdoor
  refuses : o.result = .ok false ↔ ∃ h a z trapdoor, ConveysKey G inbox[0]? h ∧
    ConveysAnnouncement inbox[1]? a ∧ ConveysResponse inbox[2]? z trapdoor ∧
    ¬ Convinces S (role.challengeOf source) h a z trapdoor
  fails (error : ProtocolError) : o.result = .error error ↔
    FlawedKey G inbox[0]? error ∨ (∃ h, ConveysKey G inbox[0]? h) ∧
      (FlawedAnnouncement G k inbox[1]? error ∨
        (∃ a : Announcement G k, ConveysAnnouncement inbox[1]? a) ∧
          FlawedResponse G inbox[2]? error)
  silent : o.sent = [] ↔ ∃ error, FlawedKey G inbox[0]? error
  commits : (∃ h opener, ConveysKey G inbox[0]? h ∧ role.openerOf? source = some opener ∧
      o.sent = [commitmentFrame h (role.challengeOf source) opener]) ↔
    (∃ h, ConveysKey G inbox[0]? h) ∧ ∃ error, FlawedAnnouncement G k inbox[1]? error
  opens : (∃ h opener, ConveysKey G inbox[0]? h ∧ role.openerOf? source = some opener ∧
      o.sent = [commitmentFrame h (role.challengeOf source) opener,
        openingFrame (role.challengeOf source) opener]) ↔
    (∃ h, ConveysKey G inbox[0]? h) ∧ ∃ a : Announcement G k, ConveysAnnouncement inbox[1]? a

theorem exact_of_run {source : Source} {inbox : List Bytes}
    {o : Outcome (Except ProtocolError Bool)}
    (hrun : (role.receiveKnowledge S).run.run ⟨source, inbox, fun _ => true⟩ = some o) :
    role.Exact S source inbox o := by
  have h := Program.Ensures.outcome
    (onChannel_receiveKnowledge role S source inbox fun _ => true) hrun
  have hsent := h.sent_eq rfl
  refine ⟨?_, ?_, fun error => ?_, ?_, ?_, ?_⟩
  · simp [h.result_eq, knowledgeVerdict_eq_ok_iff]
  · simp [h.result_eq, knowledgeVerdict_eq_ok_iff]
  · rw [h.result_eq, knowledgeVerdict_eq_error_iff]
  · rcases hsent with ⟨hflaw, hs⟩ | ⟨h, opener, hkey, ho, ⟨hann, hs⟩ | ⟨⟨a, ha⟩, hs⟩⟩
    · simp [hs, hflaw]
    · simp [hs, hkey.not_flawed]
    · simp [hs, hkey.not_flawed]
  · rcases hsent with ⟨⟨error, hflaw⟩, hs⟩ | ⟨h, opener, hkey, ho, ⟨hann, hs⟩ | ⟨⟨a, ha⟩, hs⟩⟩
    · have hno : ∀ h, ¬ ConveysKey G inbox[0]? h := fun h hkey => hkey.not_flawed hflaw
      simp [hs, hno]
    · exact ⟨fun _ => ⟨⟨h, hkey⟩, hann⟩, fun _ => ⟨h, opener, hkey, ho, hs⟩⟩
    · simp [hs, ha.not_flawed]
  · rcases hsent with ⟨⟨error, hflaw⟩, hs⟩ | ⟨h, opener, hkey, ho, ⟨⟨error, hann⟩, hs⟩ | ⟨ha, hs⟩⟩
    · have hno : ∀ h, ¬ ConveysKey G inbox[0]? h := fun h hkey => hkey.not_flawed hflaw
      simp [hs, hno]
    · have hno : ∀ a : Announcement G k, ¬ ConveysAnnouncement inbox[1]? a :=
        fun a ha => ha.not_flawed hann
      simp [hs, hno]
    · exact ⟨fun _ => ⟨⟨h, hkey⟩, ha⟩, fun _ => ⟨h, opener, hkey, ho, hs⟩⟩

end SigmaRole

end TwoParty
