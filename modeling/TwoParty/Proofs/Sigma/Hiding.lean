/-
The verifier's challenge before the announcement. Under every key, each commitment to one challenge
is a commitment to any other, for exactly one randomness, which is that of the first shifted by the
difference of the challenges; so the frame says nothing about the challenge. And until the prover
has announced, it is the only frame that the verifier sends.
-/
import TwoParty.Proofs.Sigma.Verifier

namespace TwoParty

open CyclicGroup Pedersen

variable {G : CyclicGroup} {k : Nat}

namespace SigmaRole

/-! ## One frame, every challenge -/

section Frames

variable (hG : G.PrimeOrder) {h : G.Element} (hh : G.isMember h = true)
include hG hh

/-- Commitments are the same frame exactly if they are the same element. -/
theorem commitmentFrame_eq_iff {e e' : Challenge} {opener opener' : G.Scalar} :
    commitmentFrame h e' opener' = commitmentFrame h e opener ↔
      Key.commitment ⟨G.generator, h⟩ (e'.scalar G) opener' =
        Key.commitment ⟨G.generator, h⟩ (e.scalar G) opener := by
  have hmember : ∀ x r, G.isMember (Key.commitment ⟨G.generator, h⟩ x r) = true :=
    Key.isMember_commitment hG hG.isMember_generator hh
  have hfits : ∀ x r, Wire.Fits (CommitmentMessage.mk challengeSession
      (G.encode (Key.commitment ⟨G.generator, h⟩ x r))) :=
    fun x r => ⟨trivial, hG.fits_element (hmember x r)⟩
  constructor
  · intro heq
    unfold commitmentFrame at heq
    have hmessage := Wire.decode_write (hfits (e'.scalar G) opener')
    rw [heq, Wire.decode_write (hfits _ _), Except.ok.injEq, CommitmentMessage.mk.injEq] at hmessage
    have hread := congrArg G.decode? hmessage.2
    rw [hG.decode?_encode _ (hmember _ _), hG.decode?_encode _ (hmember _ _)] at hread
    exact (Option.some.inj hread).symm
  · intro heq
    unfold commitmentFrame
    rw [heq]

/-- The randomness that makes a commitment to `e` one to `e'`. -/
theorem exists_commitmentFrame_shift (e e' : Challenge) :
    ∃ d, ∀ opener opener', commitmentFrame h e' opener' = commitmentFrame h e opener ↔
      opener' = shift d opener := by
  obtain ⟨η, rfl⟩ := hG.exists_antilog hh
  refine ⟨η * toZMod (e.scalar G) - η * toZMod (e'.scalar G), fun opener opener' => ?_⟩
  rw [commitmentFrame_eq_iff hG hh, Key.commitment_eq_commitment_iff hG, ← toZMod_inj]
  show _ ↔ toZMod opener' = toZMod (ofZMod _)
  rw [toZMod_ofZMod, ← add_sub_assoc, eq_sub_iff_add_eq]

/-- Each challenge is committed to by a frame for exactly one randomness. -/
theorem existsUnique_opener (e e' : Challenge) (opener : G.Scalar) :
    ∃! opener', commitmentFrame h e' opener' = commitmentFrame h e opener := by
  obtain ⟨d, hd⟩ := exists_commitmentFrame_shift hG hh e e'
  exact ⟨shift d opener, (hd _ _).2 rfl, fun opener' heq => (hd _ _).1 heq⟩

/-- Whatever is asked of the frame, as many choices of the randomness answer it for one challenge
as for any other. -/
theorem card_openers_eq (e e' : Challenge) (φ : Bytes → Prop) [DecidablePred φ] :
    (Finset.univ.filter fun opener : G.Scalar => φ (commitmentFrame h e opener)).card =
      (Finset.univ.filter fun opener : G.Scalar => φ (commitmentFrame h e' opener)).card := by
  obtain ⟨d, hd⟩ := exists_commitmentFrame_shift hG hh e e'
  refine Finset.card_equiv (shift d) fun opener => ?_
  simp only [Finset.mem_filter, Finset.mem_univ, true_and]
  rw [(hd opener _).2 rfl]

end Frames

/-! ## Until the announcement -/

/-- A send in a traffic that begins with a receipt and a send is this one or comes later. -/
theorem sent_split {received : Option Bytes} {first frame : Bytes}
    {rest before after : List Activity}
    (h : .received received :: .sent first :: rest = before ++ .sent frame :: after) :
    before = [.received received] ∧ frame = first ∨
      ∃ before', before = .received received :: .sent first :: before' ∧
        rest = before' ++ .sent frame :: after := by
  rcases before with _ | ⟨activity, _ | ⟨activity', before'⟩⟩
  · cases h
  · cases h
    exact .inl ⟨rfl, rfl⟩
  · cases h
    exact .inr ⟨before', rfl, rfl⟩

/-- What the verifier sends before it has received an announcement is the commitment alone. -/
theorem Judged.sent_before {S : Statement G k} {e : Challenge} {opener? : Option G.Scalar}
    {inbox : List Bytes} {line : Nat → Bool} {traffic : List Activity}
    {result : Except ProtocolError Bool} (hrun : Judged S e opener? inbox line traffic result)
    {before after : List Activity} {frame : Bytes}
    (hsent : traffic = before ++ .sent frame :: after) :
    ∃ h opener, ConveysKey G inbox[0]? h ∧ opener? = some opener ∧
      (before = [.received inbox[0]?] ∧ frame = commitmentFrame h e opener ∨
        before = [.received inbox[0]?, .sent (commitmentFrame h e opener), .received inbox[1]?] ∧
          ∃ a : Announcement G k, ConveysAnnouncement inbox[1]? a) := by
  simp only [← heard_key_iff, ← heard_announcement_iff]
  cases hrun with
  | keyless hkey => simp [List.cons_eq_append_iff] at hsent
  | uncommitted hkey ho hc => simp [List.cons_eq_append_iff] at hsent
  | unannounced hkey ho hc ha =>
    rcases sent_split hsent with hfirst | ⟨before', rfl, hrest⟩
    · exact ⟨_, _, hkey, ho, .inl hfirst⟩
    · simp [List.cons_eq_append_iff] at hrest
  | unopened hkey ho hc ha hx =>
    rcases sent_split hsent with hfirst | ⟨before', rfl, hrest⟩
    · exact ⟨_, _, hkey, ho, .inl hfirst⟩
    · simp [List.cons_eq_append_iff] at hrest
  | unanswered hkey ho hc ha hx hz =>
    rcases sent_split hsent with hfirst | ⟨before', rfl, hrest⟩
    · exact ⟨_, _, hkey, ho, .inl hfirst⟩
    · rcases sent_split hrest with ⟨rfl, -⟩ | ⟨before'', rfl, hlast⟩
      · exact ⟨_, _, hkey, ho, .inr ⟨rfl, _, ha⟩⟩
      · simp [List.cons_eq_append_iff] at hlast
  | decided hkey ho hc ha hx hz =>
    rcases sent_split hsent with hfirst | ⟨before', rfl, hrest⟩
    · exact ⟨_, _, hkey, ho, .inl hfirst⟩
    · rcases sent_split hrest with ⟨rfl, -⟩ | ⟨before'', rfl, hlast⟩
      · exact ⟨_, _, hkey, ho, .inr ⟨rfl, _, ha⟩⟩
      · simp [List.cons_eq_append_iff] at hlast

/-- The challenge stays perfectly hidden until the prover has fixed its announcement. Under every
key that the verifier accepts, the identity included, a commitment to one challenge is the same
frame as a commitment to any other for exactly one randomness, so no question about the frame tells
the challenges apart; and whatever comes to the verifier and whatever becomes of what it sends,
this commitment is all it sends before it has received an announcement. -/
theorem challenge_hidden (hG : G.PrimeOrder) (role : SigmaRole G) (S : Statement G k) :
    (∀ frame? h, ConveysKey G frame? h → ∀ e e' : Challenge,
      (∀ opener, ∃! opener', commitmentFrame h e' opener' = commitmentFrame h e opener) ∧
      ∀ (φ : Bytes → Prop) [DecidablePred φ],
        (Finset.univ.filter fun opener : G.Scalar => φ (commitmentFrame h e opener)).card =
          (Finset.univ.filter fun opener : G.Scalar => φ (commitmentFrame h e' opener)).card) ∧
    ∀ source inbox line o, (role.receiveKnowledge S).run.run ⟨source, inbox, line⟩ = some o →
      ∀ before frame after, o.traffic = before ++ .sent frame :: after →
        ∃ h opener, ConveysKey G inbox[0]? h ∧ role.openerOf? source = some opener ∧
          (before = [.received inbox[0]?] ∧
              frame = commitmentFrame h (role.challengeOf source) opener ∨
            before = [.received inbox[0]?,
                .sent (commitmentFrame h (role.challengeOf source) opener), .received inbox[1]?] ∧
              ∃ a : Announcement G k, ConveysAnnouncement inbox[1]? a) := by
  constructor
  · rintro frame? h ⟨frame, message, -, -, -, hh⟩ e e'
    exact ⟨existsUnique_opener hG hh e e', card_openers_eq hG hh e e'⟩
  · intro source inbox line o hrun before frame after hsent
    have hjudged := Program.Ensures.outcome
      (onChannel_receiveKnowledge role S source inbox line) hrun
    exact Judged.sent_before hjudged hsent

/-- The frame of the key that is the identity. -/
def identityKey : Bytes :=
  Wire.write (KeyMessage.mk (Residues.order281.group.encode Residues.order281.group.identity))

theorem challenge_hidden_order281 :
    (∃! opener', commitmentFrame Residues.order281.group.identity ⟨[2]⟩ opener' =
      commitmentFrame Residues.order281.group.identity ⟨[1]⟩ (scalar _ 3)) ∧
    ∃ o, (order281.receiveKnowledge seven).run.run ⟨zeros, [identityKey], fun _ => true⟩ = some o ∧
      ∃ h opener, ConveysKey Residues.order281.group (some identityKey) h ∧
        .sent (commitmentFrame h (order281.challengeOf zeros) opener) ∈ o.traffic := by
  obtain ⟨hhidden, hfirst⟩ := challenge_hidden Residues.primeOrder_order281 order281 seven
  have hkey : ConveysKey Residues.order281.group (some identityKey)
      Residues.order281.group.identity :=
    ⟨_, _, rfl, rfl, rfl, by decide⟩
  refine ⟨(hhidden _ _ hkey _ _).1 _, ?_⟩
  have htraffic : ((order281.receiveKnowledge seven).run.run
      ⟨zeros, [identityKey], fun _ => true⟩).map Outcome.traffic =
      some [.received (some identityKey),
        .sent (commitmentFrame Residues.order281.group.identity ⟨[0]⟩ (zero _)),
        .received none] := rfl
  obtain ⟨o, hrun, ho⟩ := Option.map_eq_some_iff.1 htraffic
  obtain ⟨h, opener, hh, -, hbefore⟩ := hfirst _ _ _ o hrun [.received (some identityKey)] _
    [.received none] ho
  refine ⟨o, hrun, h, opener, hh, ?_⟩
  rcases hbefore with ⟨-, hframe⟩ | ⟨hbefore, -⟩
  · rw [ho, hframe]; simp
  · cases hbefore

end SigmaRole

end TwoParty
