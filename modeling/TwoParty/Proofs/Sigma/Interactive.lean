/-
The three moves between parties that keep to the protocol. Every transcript with an honest response
is accepted, whatever the randomness and the challenge; over a channel the announcement, the
challenge and the response go over and are read back, so that the verifier is convinced and the
roles are ready for the next proof.
-/
import TwoParty.Sigma.Interactive
import TwoParty.Proofs.Sigma.Moves

namespace TwoParty

open CyclicGroup

variable {G : CyclicGroup} {k : Nat}

/-- A challenge is no longer than an exponent, so it fits into a frame. -/
theorem Challenge.fits (hG : G.PrimeOrder) {soundness : Soundness G.order} {e : Challenge}
    (he : e.bytes.length = soundness.challengeLength) : Wire.Fits e :=
  (Challenge.length_le_scalarWidth he).trans_lt hG.scalarWidth_lt

namespace SigmaRole

/-- The frames of a proof: the announcement, the challenge and the response. -/
def proofPassages (S : Statement G k) (w r : G.Scalar) (e : Challenge) : List Passage :=
  [(.first, Wire.write (AnnouncementMessage.encode (S.commit r))),
    (.second, Wire.write e),
    (.first, Wire.write (ResponseMessage.encode (G.add r (G.mul (e.scalar G) w))))]

variable {prover verifier : SigmaRole G} {S : Statement G k} {w r : G.Scalar} {e : Challenge}
  {s s' t : Source}

/-! ## One proof -/

theorem proof_meets (hG : G.PrimeOrder) (hk : k < 2 ^ 64)
    (hrole : prover.soundness = verifier.soundness) (hS : S.isValid = true)
    (hw : S.holds w = true) (hr : G.nextScalar s = some (r, s'))
    (he : e.bytes = t.peek verifier.soundness.challengeLength) :
    (prover.prove S w).Meets (verifier.receiveProof S) s t (proofPassages S w r e) ((), s')
      (true, t.advance verifier.soundness.challengeLength) := by
  have hlen : e.bytes.length = verifier.soundness.challengeLength := by
    rw [he]; exact Source.length_peek _ _
  have hlen' : e.bytes.length = prover.soundness.challengeLength := by rw [hrole]; exact hlen
  have ha := Statement.isValid_commit hG hS r
  unfold prove receiveProof
  refine (yields_announce hw hr).left ?_
  refine Attempt.Meets.send_bind (AnnouncementMessage.fits_encode hG hk ha) ?_
  simp only [AnnouncementMessage.decode_encode hG ha, Attempt.judge_ok, pure_bind]
  -- the challenge is drawn only after the announcement has been read
  have hrandom := Challenge.yields_random verifier.soundness t
  rw [← he] at hrandom
  refine (Attempt.Yields.of hrandom).right ?_
  refine Attempt.Meets.receive_bind (Challenge.fits hG hlen) ?_
  simp only [respond_eq hlen']
  have hz : ResponseMessage.decode G (.encode (G.add r (G.mul (e.scalar G) w))) =
      .ok (G.add r (G.mul (e.scalar G) w)) := decodeReceivedScalar_encodeScalar _ _
  refine Attempt.Meets.send_bind (hG.fits_scalar _) ?_
  simp only [hz, Attempt.judge_ok, pure_bind]
  have hverdict := yields_verify verifier S ⟨S.commit r, e, G.add r (G.mul (e.scalar G) w)⟩
    (t.advance verifier.soundness.challengeLength)
  rw [verdict_respond hG hS hw hlen] at hverdict
  exact (Attempt.Yields.note _ s').meets hverdict

/-! ## Proof after proof -/

/-- The proofs are made one after the other over the link, by the same roles. In each the prover
succeeds and the verifier is convinced; what goes over are the three frames of the randomness and
the challenge that the parties draw; and no frame is left. -/
def Convince (prover verifier : SigmaRole G) : List (Statement G k × G.Scalar) → Link → Prop
  | [], _ => True
  | (S, w) :: proofs, link => ∃ o link' r s' e, G.nextScalar link.first.source = some (r, s') ∧
      e.bytes = link.second.source.peek verifier.soundness.challengeLength ∧
      link.runBoth (prover.prove S w).run (verifier.receiveProof S).run = some (o, link') ∧
      o.left.result = .ok () ∧ o.right.result = .ok true ∧
      o.left.traffic = (proofPassages S w r e).map (Passage.activity .first) ∧
      o.right.traffic = (proofPassages S w r e).map (Passage.activity .second) ∧
      link'.first.inbox = [] ∧ link'.second.inbox = [] ∧ Convince prover verifier proofs link'

theorem convince_proofs (hG : G.PrimeOrder) (hk : k < 2 ^ 64)
    (hrole : prover.soundness = verifier.soundness) (proofs : List (Statement G k × G.Scalar))
    (hproofs : ∀ p ∈ proofs, p.1.isValid = true ∧ p.1.holds p.2 = true) (s t : Source)
    (hs : (s.after (List.replicate proofs.length G.scalarDraw)).isSome = true) :
    Convince prover verifier proofs (.fresh s t) := by
  induction proofs generalizing s t with
  | nil => trivial
  | cons proof proofs ih =>
    obtain ⟨S, w⟩ := proof
    rw [List.forall_mem_cons] at hproofs
    obtain ⟨⟨hS, hw⟩, hproofs⟩ := hproofs
    -- a proof takes one exponent from the prover, and a challenge from the verifier
    obtain ⟨r, s', hr, hs⟩ := nextScalar_of_after hs
    have hmeets := proof_meets hG hk hrole hS hw hr (t := t)
      (e := ⟨t.peek verifier.soundness.challengeLength⟩) rfl
    obtain ⟨o, hrun, hleft, hright⟩ := hmeets.runBoth_ends
    exact ⟨o, _, r, s', _, hr, rfl, hrun, hleft.result, hright.result, hleft.traffic,
      hright.traffic, rfl, rfl, ih hproofs s' _ hs⟩

/-- Completeness of the three moves. With a witness of a valid statement and one soundness
parameter, every randomness and every challenge of the right length have a response, and every run
of the verifier accepts the transcript; over a channel, whatever is drawn, the same roles make
proof after proof in three frames each, of which none is left. -/
theorem interactive_complete (hG : G.PrimeOrder) (hk : k < 2 ^ 64) (prover verifier : SigmaRole G)
    (hrole : prover.soundness = verifier.soundness) :
    (∀ (S : Statement G k) (w : G.Scalar), S.isValid = true → S.holds w = true →
      ∀ (r : G.Scalar) (e : Challenge), e.bytes.length = verifier.soundness.challengeLength →
        ∃ z, prover.respond ⟨r, w⟩ e = .ok z ∧
          ∀ p, ∃ o, (verifier.verify S ⟨S.commit r, e, z⟩).run p = some o ∧ o.result = true) ∧
    ∀ proofs : List (Statement G k × G.Scalar),
      (∀ p ∈ proofs, p.1.isValid = true ∧ p.1.holds p.2 = true) → ∀ s t : Source,
        (s.after (List.replicate proofs.length G.scalarDraw)).isSome = true →
          Convince prover verifier proofs (.fresh s t) := by
  constructor
  · intro S w hS hw r e he
    refine ⟨_, respond_eq (by rw [hrole]; exact he) r w, fun p => ?_⟩
    obtain ⟨event, hrun⟩ := run_verify verifier S
      ⟨S.commit r, e, G.add r (G.mul (e.scalar G) w)⟩ p
    exact ⟨_, hrun, verdict_respond hG hS hw he r⟩
  · intro proofs hproofs s t hs
    exact convince_proofs hG hk hrole proofs hproofs s t hs

/-- The tuple of the exponents two, three and six, whose witness is three. -/
def triple : Statement Residues.order281.group 2 :=
  .diffieHellman _ (exponentiateGenerator _ (scalar _ 2)) (exponentiateGenerator _ (scalar _ 3))
    (exponentiateGenerator _ (scalar _ 6))

theorem interactive_complete_order281 :
    (∃ z, order281.respond ⟨zero _, scalar _ 3⟩ ⟨[0]⟩ = .ok z ∧
      ∃ o, (order281.verify triple ⟨triple.commit (zero _), ⟨[0]⟩, z⟩).run
        (.fresh (.constant 255)) = some o ∧ o.result = true) ∧
    Convince order281 order281 [(triple, scalar _ 3), (triple, scalar _ 3)]
      (.fresh (.constant 0) (.constant 255)) := by
  have hvalid : triple.isValid = true := by decide +kernel
  have hholds : triple.holds (scalar _ 3) = true := by decide +kernel
  obtain ⟨haccept, hconvince⟩ :=
    interactive_complete (k := 2) Residues.primeOrder_order281 (by decide) order281 order281 rfl
  constructor
  · obtain ⟨z, hz, hrun⟩ := haccept triple (scalar _ 3) hvalid hholds (zero _) ⟨[0]⟩ rfl
    exact ⟨z, hz, hrun _⟩
  · refine hconvince _ ?_ _ _ rfl
    simp [hvalid, hholds]

end SigmaRole

end TwoParty
