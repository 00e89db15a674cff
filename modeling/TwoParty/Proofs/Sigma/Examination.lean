/-
A verifier of the three moves against any prover. It reads an announcement, sends a challenge and
reads a response; each frame either conveys what it should or has a flaw that is the result. The
challenge is drawn only after an announcement of members was read, and from the source alone, so
the prover has no influence on it and learns nothing before it has announced.
-/
import TwoParty.Proofs.Sigma.Verifier
import TwoParty.Sigma.Interactive

namespace TwoParty

open CyclicGroup

variable {G : CyclicGroup} {k : Nat}

/-! ## Responses -/

/-- The frame conveys a response in canonical form. -/
def ConveysReply (frame? : Option Bytes) (z : G.Scalar) : Prop :=
  Conveys (fun (m : ResponseMessage) z => G.decodeScalar? m.z = some z) frame? z

def FlawedReply (G : CyclicGroup) (frame? : Option Bytes) (error : ProtocolError) : Prop :=
  Flawed (fun (m : ResponseMessage) cause =>
    G.decodeScalar? m.z = none ∧ cause = .invalidScalar "z") frame? error

section Heard

variable {frame? : Option Bytes} {error : ProtocolError}

theorem heard_reply_iff {z : G.Scalar} :
    Attempt.heard (ResponseMessage.decode G) frame? = .ok z ↔ ConveysReply frame? z :=
  Attempt.heard_eq_ok_iff fun _ _ => decodeReceivedScalar_eq_ok_iff

theorem heard_reply_error_iff :
    Attempt.heard (ResponseMessage.decode G) frame? = .error error ↔ FlawedReply G frame? error :=
  Attempt.heard_eq_error_iff fun _ _ => decodeReceivedScalar_eq_error_iff

end Heard

namespace SigmaRole

/-! ## The run -/

section Examined

variable (role : SigmaRole G) (S : Statement G k) (source : Source) (inbox : List Bytes)
  (line : Nat → Bool)

/-- The traffic of a verifier, the source that it leaves, and its result: how far it gets is up to
the frames that come to it and to the fate of its challenge. -/
inductive Examined : List Activity → Source → Except ProtocolError Bool → Prop where
  | unannounced {error : ProtocolError}
    (ha : Attempt.heard (AnnouncementMessage.decode G k) inbox[0]? = .error error) :
    Examined [.received inbox[0]?] source (.error error)
  | unchallenged {a : Announcement G k}
    (ha : Attempt.heard (AnnouncementMessage.decode G k) inbox[0]? = .ok a)
    (he : line 0 = false) :
    Examined [.received inbox[0]?, .refused (Wire.write (role.challengeOf source))]
      (source.advance role.soundness.challengeLength) (.error (.channel .closed))
  | unanswered {a : Announcement G k} {error : ProtocolError}
    (ha : Attempt.heard (AnnouncementMessage.decode G k) inbox[0]? = .ok a)
    (he : line 0 = true)
    (hz : Attempt.heard (ResponseMessage.decode G) inbox[1]? = .error error) :
    Examined [.received inbox[0]?, .sent (Wire.write (role.challengeOf source)),
      .received inbox[1]?] (source.advance role.soundness.challengeLength) (.error error)
  | decided {a : Announcement G k} {z : G.Scalar}
    (ha : Attempt.heard (AnnouncementMessage.decode G k) inbox[0]? = .ok a)
    (he : line 0 = true)
    (hz : Attempt.heard (ResponseMessage.decode G) inbox[1]? = .ok z) :
    Examined [.received inbox[0]?, .sent (Wire.write (role.challengeOf source)),
      .received inbox[1]?] (source.advance role.soundness.challengeLength)
      (.ok (S.isValid && S.check a ((role.challengeOf source).scalar G) z))

end Examined

theorem ensures_receiveProof (role : SigmaRole G) (S : Statement G k) (p : Endpoint) :
    (role.receiveProof S).Ensures p False fun o =>
      role.Examined S p.source p.inbox p.line o.traffic o.endpoint.source o.result := by
  have he := length_challengeOf role p.source
  unfold receiveProof
  refine .hear List.head?_eq_getElem? (fun error ha => ?_) fun a ha => ?_
  · show role.Examined S _ _ _ (List.filter _ (.received _ :: Attempt.accusations _ error)) _ _
    rw [Attempt.traffic_accusations error _ rfl]
    exact .unannounced ha
  refine ensures_challenge_bind role ?_
  refine .send (fun hline => ?_) fun hline => .unchallenged ha hline
  refine .hear List.head?_tail (fun error hz => ?_) fun z hz => ?_
  · show role.Examined S _ _ _
      (_ :: _ :: List.filter _ (.received _ :: Attempt.accusations _ error)) _ _
    rw [Attempt.traffic_accusations error _ rfl]
    exact .unanswered ha hline hz
  · -- the verdict comes with a note, which is no traffic
    obtain ⟨event, hverify, -⟩ := verify_eq role S ⟨a, role.challengeOf p.source, z⟩
    rw [hverify, verdict_of_heard S he ha z]
    exact Program.Ensures.of_run rfl (.decided ha hline hz)

section Accepted

variable {role : SigmaRole G} {S : Statement G k} {source left : Source} {inbox : List Bytes}
  {line : Nat → Bool} {traffic : List Activity} {result : Except ProtocolError Bool}

/-- The verifier is convinced exactly if the challenge got through and the frames conveyed an
accepted transcript of it. -/
theorem Examined.accepted_iff (h : role.Examined S source inbox line traffic left result) :
    result = .ok true ↔ line 0 = true ∧ ∃ a z, ConveysAnnouncement inbox[0]? a ∧
      ConveysReply inbox[1]? z ∧ role.verdict S ⟨a, role.challengeOf source, z⟩ = true := by
  have hlength := length_challengeOf role source
  simp only [← heard_announcement_iff, ← heard_reply_iff]
  cases h with
  | unannounced ha => simp [ha]
  | unchallenged ha he => simp [he]
  | unanswered ha he hz => simp [hz]
  | decided ha he hz =>
    rw [← verdict_of_heard S hlength ha]
    simp [ha, he, hz]

/-- The challenge was sent, if there is a verdict. -/
theorem Examined.traffic_of_ok (h : role.Examined S source inbox line traffic left result)
    {b : Bool} (hresult : result = .ok b) :
    traffic = [.received inbox[0]?, .sent (Wire.write (role.challengeOf source)),
      .received inbox[1]?] := by
  cases h with
  | unannounced ha => cases hresult
  | unchallenged ha he => cases hresult
  | unanswered ha he hz => cases hresult
  | decided ha he hz => rfl

end Accepted

/-! ## The result -/

/-- The verdict on two frames. -/
def examinedVerdict (S : Statement G k) (e : Challenge) (inbox : List Bytes) :
    Except ProtocolError Bool := do
  let a ← Attempt.heard (AnnouncementMessage.decode G k) inbox[0]?
  let z ← Attempt.heard (ResponseMessage.decode G) inbox[1]?
  return S.isValid && S.check a (e.scalar G) z

variable {role : SigmaRole G} {S : Statement G k} {source left : Source} {inbox : List Bytes}
  {traffic : List Activity} {result : Except ProtocolError Bool}

theorem Examined.result_eq
    (h : role.Examined S source inbox (fun _ => true) traffic left result) :
    result = examinedVerdict S (role.challengeOf source) inbox := by
  unfold examinedVerdict
  cases h with
  | unannounced ha => rw [ha]; rfl
  | unchallenged ha he => cases he
  | unanswered ha he hz => rw [ha, hz]; rfl
  | decided ha he hz => rw [ha, hz]; rfl

theorem Examined.result_eq_ok_iff {b : Bool}
    (h : role.Examined S source inbox (fun _ => true) traffic left result) :
    result = .ok b ↔ ∃ a z, ConveysAnnouncement inbox[0]? a ∧ ConveysReply inbox[1]? z ∧
      (b = true ↔ S.AnsweredBy a ((role.challengeOf source).scalar G) z) := by
  rw [h.result_eq]
  unfold examinedVerdict
  simp only [bind_eq_ok_iff, heard_announcement_iff, heard_reply_iff, pure, Except.pure,
    Except.ok.injEq]
  constructor
  · rintro ⟨a, ha, z, hz, rfl⟩
    exact ⟨a, z, ha, hz, Statement.answeredBy_iff⟩
  · rintro ⟨a, z, ha, hz, hb⟩
    exact ⟨a, ha, z, hz, Bool.eq_iff_iff.2 (Statement.answeredBy_iff.trans hb.symm)⟩

theorem Examined.result_eq_error_iff {error : ProtocolError}
    (h : role.Examined S source inbox (fun _ => true) traffic left result) :
    result = .error error ↔ FlawedAnnouncement G k inbox[0]? error ∨
      (∃ a : Announcement G k, ConveysAnnouncement inbox[0]? a) ∧
        FlawedReply G inbox[1]? error := by
  rw [h.result_eq]
  unfold examinedVerdict
  simp only [bind_eq_error_iff, heard_announcement_iff, heard_announcement_error_iff,
    heard_reply_error_iff, pure, Except.pure, reduceCtorEq, and_false, exists_const, or_false,
    exists_and_right]

/-- What is sent and what is drawn: nothing without an announcement, and the challenge after it. -/
theorem Examined.traffic_eq
    (h : role.Examined S source inbox (fun _ => true) traffic left result) :
    (∃ error, FlawedAnnouncement G k inbox[0]? error) ∧
        traffic = [.received inbox[0]?] ∧ left = source ∨
      (∃ a : Announcement G k, ConveysAnnouncement inbox[0]? a) ∧
        traffic = [.received inbox[0]?, .sent (Wire.write (role.challengeOf source)),
          .received inbox[1]?] ∧ left = source.advance role.soundness.challengeLength := by
  simp only [← heard_announcement_iff, ← heard_announcement_error_iff]
  cases h with
  | unannounced ha => exact .inl ⟨⟨_, ha⟩, rfl, rfl⟩
  | unchallenged ha he => cases he
  | unanswered ha he hz => exact .inr ⟨⟨_, ha⟩, rfl, rfl⟩
  | decided ha he hz => exact .inr ⟨⟨_, ha⟩, rfl, rfl⟩

/-- The exact outcome of a verifier whose challenge gets through, for whatever comes to it. A proof
is decided when both frames convey something, and then by the members and the equations. Without an
announcement nothing is sent or drawn; after it the challenge is drawn and sent, and nothing else
is. -/
structure ExaminedExactly (role : SigmaRole G) (S : Statement G k) (source : Source)
    (inbox : List Bytes) (o : Outcome (Except ProtocolError Bool)) : Prop where
  decides (b : Bool) : o.result = .ok b ↔ ∃ a z, ConveysAnnouncement inbox[0]? a ∧
    ConveysReply inbox[1]? z ∧ (b = true ↔ S.AnsweredBy a ((role.challengeOf source).scalar G) z)
  fails (error : ProtocolError) : o.result = .error error ↔
    FlawedAnnouncement G k inbox[0]? error ∨
      (∃ a : Announcement G k, ConveysAnnouncement inbox[0]? a) ∧ FlawedReply G inbox[1]? error
  silent : o.sent = [] ↔ ∃ error, FlawedAnnouncement G k inbox[0]? error
  challenges : o.sent = [Wire.write (role.challengeOf source)] ↔
    ∃ a : Announcement G k, ConveysAnnouncement inbox[0]? a
  undrawn : o.sent = [] → o.traffic = [.received inbox[0]?] ∧ o.endpoint.source = source
  drawn : o.sent ≠ [] →
    o.traffic = [.received inbox[0]?, .sent (Wire.write (role.challengeOf source)),
      .received inbox[1]?] ∧ o.endpoint.source = source.advance role.soundness.challengeLength

theorem Examined.exactly {o : Outcome (Except ProtocolError Bool)}
    (h : role.Examined S source inbox (fun _ => true) o.traffic o.endpoint.source o.result) :
    role.ExaminedExactly S source inbox o := by
  rcases h.traffic_eq with ⟨⟨error, hflaw⟩, htraffic, hsource⟩ | ⟨⟨a, ha⟩, htraffic, hsource⟩
  · have hsent : o.sent = [] := o.sent_eq_of_traffic htraffic
    exact
      { decides := fun _ => h.result_eq_ok_iff
        fails := fun _ => h.result_eq_error_iff
        silent := iff_of_true hsent ⟨error, hflaw⟩
        challenges := iff_of_false (by simp [hsent]) fun ⟨_, ha⟩ => ha.not_flawed hflaw
        undrawn := fun _ => ⟨htraffic, hsource⟩
        drawn := fun hne => absurd hsent hne }
  · have hsent : o.sent = [Wire.write (role.challengeOf source)] := o.sent_eq_of_traffic htraffic
    exact
      { decides := fun _ => h.result_eq_ok_iff
        fails := fun _ => h.result_eq_error_iff
        silent := iff_of_false (by simp [hsent]) fun ⟨_, hflaw⟩ => ha.not_flawed hflaw
        challenges := iff_of_true hsent ⟨a, ha⟩
        undrawn := fun hnil => absurd (hsent.symm.trans hnil) (by simp)
        drawn := fun _ => ⟨htraffic, hsource⟩ }

/-- Whatever frames come to it, a verifier ends, and its outcome is the exact one. -/
theorem examination_exact (role : SigmaRole G) (S : Statement G k) (source : Source)
    (inbox : List Bytes) : ∃ o,
      (role.receiveProof S).run.run ⟨source, inbox, fun _ => true⟩ = some o ∧
        role.ExaminedExactly S source inbox o := by
  obtain ⟨o, hrun, h⟩ := Program.Ensures.exists_outcome
    (ensures_receiveProof role S ⟨source, inbox, fun _ => true⟩) not_false
  exact ⟨o, hrun, h.exactly⟩

end SigmaRole

end TwoParty
