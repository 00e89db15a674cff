/-
Transcripts that are made without a witness. To every challenge and response the simulator solves
for the announcement, and the solution passes for every statement of members, true or false: it
consists of members, and it fulfils every equation because it was solved for that. A challenge that
no verifier could have sent is refused before anything is drawn.
-/
import TwoParty.Proofs.Sigma.Simulation
import TwoParty.Proofs.Sigma.Verifier

namespace TwoParty

open CyclicGroup

variable {G : CyclicGroup} {k : Nat}

/-! ## Announcements that are solved for -/

namespace Statement

variable {S : Statement G k} (hG : G.PrimeOrder)
include hG

theorem isValid_backSolve (hS : S.isValid = true) (e z : G.Scalar) :
    (S.backSolve e z).isValid = true := by
  rw [Announcement.isValid_iff]
  intro i hi
  obtain ⟨hbase, himage⟩ := isValid_iff.1 hS i hi
  unfold backSolve
  rw [Vector.getElem_map]
  exact hG.isMember_multiply (hG.isMember_exponentiate hbase z)
    (hG.isMember_exponentiate himage (G.neg e))

/-- What is solved for fits, whether the statement has a witness or not. -/
theorem check_backSolve (hS : S.isValid = true) (e z : G.Scalar) :
    S.check (S.backSolve e z) e z = true :=
  (check_iff_eq_backSolve hG hS (isValid_backSolve hG hS e z) e z).2 rfl

end Statement

/-! ## The simulator -/

namespace SigmaRole

open Transcript

variable {role : SigmaRole G} {S : Statement G k} {e : Challenge}

theorem verdict_simulated (hG : G.PrimeOrder) (hS : S.isValid = true)
    (he : e.bytes.length = role.soundness.challengeLength) (z : G.Scalar) :
    role.verdict S (simulated S e z) = true :=
  verdict_iff.2 ⟨he, hS, Statement.isValid_backSolve hG hS _ z,
    Statement.check_backSolve hG hS _ z⟩

theorem ensures_simulate (S : Statement G k)
    (he : e.bytes.length = role.soundness.challengeLength) (p : Endpoint) :
    (role.simulate S (some e)).Ensures p (G.nextScalar p.source = none)
      fun o => ∃ z, o.result = .ok (simulated S e z) := by
  unfold simulate
  simp only [Challenge.check_eq_ok_iff.2 he, pure_bind]
  exact .scalar id fun z _ _ => .pure ⟨z, rfl⟩

theorem ensures_simulate_none (role : SigmaRole G) (S : Statement G k) (p : Endpoint) :
    (role.simulate S none).Ensures p
      (G.nextScalar (p.source.advance role.soundness.challengeLength) = none)
      fun o => ∃ z, o.result = .ok (simulated S (role.challengeOf p.source) z) := by
  unfold simulate
  exact ensures_challenge_bind role (.scalar id fun z _ _ => .pure ⟨z, rfl⟩)

/-- The refusal of a challenge leaves the randomness alone. -/
theorem run_simulate_of_length_ne (S : Statement G k)
    (he : e.bytes.length ≠ role.soundness.challengeLength) (p : Endpoint) :
    ∃ event, (role.simulate S (some e)).run.run p = some
      ⟨.error (.cheating (.challengeLength role.soundness.challengeLength e.bytes.length)), p,
        [.noted event]⟩ := by
  unfold simulate Challenge.check
  simp only [if_neg he]
  exact ⟨_, rfl⟩

/-! ## Acceptance -/

/-- The simulator makes transcripts that every verifier with its parameter accepts, for a challenge
that it is given or draws, as long as its draws end; and it refuses a challenge of a wrong length,
of which it tells the length. -/
structure Forges (simulator : SigmaRole G) (S : Statement G k) : Prop where
  given (e : Challenge) (he : e.bytes.length = simulator.soundness.challengeLength)
    (p : Endpoint) :
    (simulator.simulate S (some e)).Ensures p (G.nextScalar p.source = none) fun o =>
      ∃ t, o.result = .ok t ∧ t.e = e ∧ ∀ verifier : SigmaRole G,
        verifier.soundness = simulator.soundness → verifier.AcceptsIff S t True
  drawn (p : Endpoint) :
    (simulator.simulate S none).Ensures p
      (G.nextScalar (p.source.advance simulator.soundness.challengeLength) = none) fun o =>
      ∃ t, o.result = .ok t ∧ t.e = simulator.challengeOf p.source ∧
        ∀ verifier : SigmaRole G, verifier.soundness = simulator.soundness →
          verifier.AcceptsIff S t True
  refused (e : Challenge) (he : e.bytes.length ≠ simulator.soundness.challengeLength)
    (p : Endpoint) :
    ∃ event, (simulator.simulate S (some e)).run.run p = some
      ⟨.error (.cheating (.challengeLength simulator.soundness.challengeLength e.bytes.length)), p,
        [.noted event]⟩

theorem forges (hG : G.PrimeOrder) (simulator : SigmaRole G) (hS : S.isValid = true) :
    simulator.Forges S := by
  have haccept : ∀ {e : Challenge} (z : G.Scalar),
      e.bytes.length = simulator.soundness.challengeLength → ∀ verifier : SigmaRole G,
        verifier.soundness = simulator.soundness →
          verifier.AcceptsIff S (simulated S e z) True := by
    intro e z he verifier hverifier
    rw [← hverifier] at he
    exact acceptsIff_iff_verdict.2 (iff_true_intro (verdict_simulated hG hS he z))
  refine ⟨fun e he p => ?_, fun p => ?_, fun e he p => run_simulate_of_length_ne S he p⟩
  · refine (ensures_simulate S he p).mono ?_
    rintro o ⟨z, ho⟩
    exact ⟨_, ho, rfl, haccept z he⟩
  · refine (ensures_simulate_none simulator S p).mono ?_
    rintro o ⟨z, ho⟩
    exact ⟨_, ho, rfl, haccept z (simulator.length_challengeOf p.source)⟩

/-- Transcripts are simulated for every logarithm and every tuple, of which the elements need only
be members. -/
theorem simulated_accepted (hG : G.PrimeOrder) (simulator : SigmaRole G) :
    (∀ h, G.isMember h = true → simulator.Forges (.logarithm G h)) ∧
    ∀ h u v, G.isMember h = true → G.isMember u = true → G.isMember v = true →
      simulator.Forges (.diffieHellman G h u v) :=
  ⟨fun _ hh => forges hG simulator (Statement.isValid_logarithm hG hh),
    fun _ _ _ hh hu hv => forges hG simulator (Statement.isValid_diffieHellman hG hh hu hv)⟩

/-- No witness relates the exponents of `unrelated`, and still its transcript for the challenge
zero is made and accepted. -/
theorem simulated_accepted_unrelated :
    (∀ w, unrelated.holds w = false) ∧
    (∃ o t, (order281.simulate unrelated (some ⟨[0]⟩)).run.run (.fresh (.constant 0)) = some o ∧
      o.result = .ok t ∧ t.e = ⟨[0]⟩ ∧ order281.AcceptsIff unrelated t True) ∧
    ∃ event, (order281.simulate unrelated (some ⟨[1, 2]⟩)).run.run (.fresh (.constant 0)) = some
      ⟨.error (.cheating (.challengeLength 1 2)), .fresh (.constant 0), [.noted event]⟩ := by
  have hforges : order281.Forges unrelated :=
    (simulated_accepted Residues.primeOrder_order281 order281).2 _ _ _ (by decide +kernel)
      (by decide +kernel) (by decide +kernel)
  refine ⟨by decide +kernel, ?_, hforges.refused _ (by decide) _⟩
  obtain ⟨o, hrun, t, ho, hte, haccepted⟩ :=
    (hforges.given ⟨[0]⟩ rfl (.fresh (.constant 0))).exists_outcome (by rintro ⟨⟩)
  exact ⟨o, t, hrun, ho, hte, haccepted order281 rfl⟩

end SigmaRole

end TwoParty
