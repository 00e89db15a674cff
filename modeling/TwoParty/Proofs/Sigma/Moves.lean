/-
The moves of parties that keep to the protocol: what the prover announces is read back by the
verifier, the response answers the challenge, and the verdict on an honest transcript is to accept,
whatever the randomness and the challenge are.
-/
import TwoParty.Proofs.Frames
import TwoParty.Proofs.Group.Decoding
import TwoParty.Proofs.Messages
import TwoParty.Proofs.Sigma.Transcript

namespace TwoParty

open CyclicGroup

variable {G : CyclicGroup} {k : Nat}

/-! ## Messages -/

theorem CyclicGroup.PrimeOrder.fits_scalar (hG : G.PrimeOrder) (a : G.Scalar) :
    Wire.Fits (G.encodeScalar a) := by
  show (G.encodeScalar a).length < 2 ^ 64
  rw [length_encodeScalar]
  exact hG.scalarWidth_lt

theorem CyclicGroup.PrimeOrder.fits_element (hG : G.PrimeOrder) {a : G.Element}
    (ha : G.isMember a = true) : Wire.Fits (G.encode a) :=
  hG.length_encode_lt a ha

namespace AnnouncementMessage

theorem mapM_decodeMember_encode (hG : G.PrimeOrder) (name : String) {elements : List G.Element}
    (h : ∀ a ∈ elements, G.isMember a = true) :
    (elements.map G.encode).mapM (G.decodeMember name) = .ok elements := by
  induction elements with
  | nil => rfl
  | cons a rest ih =>
    rw [List.forall_mem_cons] at h
    rw [List.map_cons, List.mapM_cons, hG.decodeMember_encode name h.1, ih h.2]
    rfl

theorem ofList?_toList (a : Announcement G k) : Announcement.ofList? G k a.toList = some a := by
  unfold Announcement.ofList?
  rw [dif_pos (by simp)]
  rfl

/-- An announcement of members is read back. -/
theorem decode_encode (hG : G.PrimeOrder) {a : Announcement G k} (ha : a.isValid = true) :
    decode G k (encode a) = .ok a := by
  have hm : ∀ x ∈ a.toList, G.isMember x = true := by
    intro x hx
    obtain ⟨i, hi, rfl⟩ := List.mem_iff_getElem.1 hx
    rw [Vector.length_toList] at hi
    simpa using Announcement.isValid_iff.1 ha i hi
  have hlen : (a.toList.map G.encode).length = k := by simp
  unfold decode encode
  simp only [if_pos hlen]
  rw [mapM_decodeMember_encode hG "a" hm]
  simp only [bind, Except.bind, ofList?_toList]

theorem ofList?_eq_some_iff {elements : List G.Element} {a : Announcement G k} :
    Announcement.ofList? G k elements = some a ↔ elements = a.toList := by
  constructor
  · intro h
    unfold Announcement.ofList? at h
    split at h
    · cases h; rfl
    · cases h
  · rintro rfl
    exact ofList?_toList a

variable {message : AnnouncementMessage}

/-- An announcement is read off a message that describes it element by element. -/
theorem decode_eq_ok_iff {a : Announcement G k} :
    decode G k message = .ok a ↔ List.Forall₂ G.Describes message.elements a.toList := by
  unfold decode
  constructor
  · intro h
    split at h
    · obtain ⟨elements, hm, h⟩ := bind_eq_ok_iff.1 h
      split at h
      · rename_i b hb
        cases h
        rw [← ofList?_eq_some_iff.1 hb]
        exact mapM_decodeMember_eq_ok_iff.1 hm
      · cases h
    · cases h
  · intro h
    have hlen : message.elements.length = k := by rw [h.length_eq, Vector.length_toList]
    rw [if_pos hlen, mapM_decodeMember_eq_ok_iff.2 h]
    simp only [bind, Except.bind, ofList?_toList]

/-- Otherwise the message has too many or too few elements, or one that is no member. -/
theorem decode_eq_error_iff {cause : Cheating} :
    decode G k message = .error cause ↔
      message.elements.length ≠ k ∧ cause = .announcementLength k message.elements.length ∨
      message.elements.length = k ∧ (∃ bytes ∈ message.elements, ∀ a, ¬ G.Describes bytes a) ∧
        cause = .notMember "a" := by
  unfold decode
  split
  · rename_i hlen
    rw [bind_eq_error_iff, mapM_decodeMember_eq_error_iff]
    constructor
    · rintro (h | ⟨elements, hm, h⟩)
      · exact .inr ⟨hlen, h⟩
      · -- as many elements are read as the message has, so they are an announcement
        have hread := (mapM_decodeMember_eq_ok_iff.1 hm).length_eq
        unfold Announcement.ofList? at h
        rw [dif_pos (hread.symm.trans hlen)] at h
        cases h
    · rintro (⟨hne, -⟩ | ⟨-, h⟩)
      · exact absurd hlen hne
      · exact .inl h
  · rename_i hlen
    rw [Except.error.injEq]
    constructor
    · rintro rfl
      exact .inl ⟨hlen, rfl⟩
    · rintro (⟨-, rfl⟩ | ⟨heq, -⟩)
      · rfl
      · exact absurd heq hlen

theorem isValid_of_decode {a : Announcement G k} (h : decode G k message = .ok a) :
    a.isValid = true := by
  rw [Announcement.isValid_iff]
  intro i hi
  have hdescribes := decode_eq_ok_iff.1 h
  have hlen : i < message.elements.length := by rw [hdescribes.length_eq]; simpa using hi
  have := (hdescribes.get hlen (by simpa using hi)).2
  simpa using this

theorem fits_encode (hG : G.PrimeOrder) (hk : k < 2 ^ 64) {a : Announcement G k}
    (ha : a.isValid = true) : Wire.Fits (encode a) := by
  refine ⟨by simpa [encode] using hk, ?_⟩
  intro bytes hb
  obtain ⟨x, hx, rfl⟩ := List.mem_map.1 hb
  obtain ⟨i, hi, rfl⟩ := List.mem_iff_getElem.1 hx
  rw [Vector.length_toList] at hi
  apply hG.fits_element
  simpa using Announcement.isValid_iff.1 ha i hi

end AnnouncementMessage

/-! ## Moves -/

namespace SigmaRole

variable {role : SigmaRole G} {S : Statement G k} {w r : G.Scalar} {e : Challenge} {s s' : Source}

theorem yields_announce (hw : S.holds w = true) (h : G.nextScalar s = some (r, s')) :
    (role.announce S w).Yields s ((⟨r, w⟩, S.commit r), s') := by
  unfold announce
  rw [if_pos hw]
  refine (Attempt.Yields.of (yields_randomScalar h)).bind ?_
  refine (Attempt.Yields.note _ s').bind ?_
  exact Attempt.Yields.pure _ s'

theorem respond_eq (he : e.bytes.length = role.soundness.challengeLength) (r w : G.Scalar) :
    role.respond ⟨r, w⟩ e = .ok (G.add r (G.mul (e.scalar G) w)) := by
  unfold respond
  rw [Challenge.check_eq_ok_iff.2 he]
  rfl

theorem yields_verify (role : SigmaRole G) (S : Statement G k) (t : Transcript G k) (s : Source) :
    (Attempt.of (role.verify S t)).Yields s (role.verdict S t, s) := by
  obtain ⟨event, h, -⟩ := verify_eq role S t
  rw [h]
  exact .of (.note event (.done _ s))

/-- Transcripts of honest provers are accepted. -/
theorem verdict_respond (hG : G.PrimeOrder) (hS : S.isValid = true) (hw : S.holds w = true)
    (he : e.bytes.length = role.soundness.challengeLength) (r : G.Scalar) :
    role.verdict S ⟨S.commit r, e, G.add r (G.mul (e.scalar G) w)⟩ = true :=
  verdict_iff.2 ⟨he, hS, Statement.isValid_commit hG hS r, Statement.check_respond hG hS hw r _⟩

end SigmaRole

end TwoParty
