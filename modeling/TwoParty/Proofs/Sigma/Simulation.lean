/-
Honest transcripts and simulated ones are the same. For a true statement and a challenge, the
randomness `r` gives the prover's transcript that the response `r + e * w` gives the simulator, and
`r ↦ r + e * w` permutes the exponents. Both ways every accepted transcript with the challenge
comes about, by one randomness and by one response.
-/
import TwoParty.Proofs.Sigma.Interactive

namespace TwoParty

open CyclicGroup

variable {G : CyclicGroup} {k : Nat}

/-! ## Announcements that are solved for -/

namespace Statement

variable {S : Statement G k} (hG : G.PrimeOrder)
include hG

/-- The announcement that the honest response fits is the honest one. -/
theorem backSolve_respond (hS : S.isValid = true) {w : G.Scalar} (hw : S.holds w = true)
    (r e : G.Scalar) : S.backSolve e (G.add r (G.mul e w)) = S.commit r := by
  apply Vector.ext
  intro i hi
  obtain ⟨b, y, hb, hy⟩ := exists_logarithms hG hS i hi
  have hwi := holds_iff.1 hw i hi
  rw [hb, hy, hG.exponentiate_antilog, hG.antilog_inj] at hwi
  unfold backSolve commit
  rw [Vector.getElem_map, Vector.getElem_map, hb, hy, hG.exponentiate_antilog,
    hG.exponentiateInverse_antilog, hG.multiply_antilog, hG.exponentiate_antilog, toZMod_add,
    toZMod_mul, ← hwi]
  congr 1
  ring

/-- To a challenge and a response there is one announcement of members that passes the check. -/
theorem check_iff_eq_backSolve (hS : S.isValid = true) {a : Announcement G k}
    (ha : a.isValid = true) (e z : G.Scalar) : S.check a e z = true ↔ S.backSolve e z = a := by
  rw [check_iff, Vector.ext_iff]
  refine forall_congr' fun i => forall_congr' fun hi => ?_
  obtain ⟨b, y, hb, hy⟩ := exists_logarithms hG hS i hi
  obtain ⟨α, hα⟩ := hG.exists_antilog (Announcement.isValid_iff.1 ha i hi)
  unfold backSolve
  rw [Vector.getElem_map, hb, hy, ← hα, hG.exponentiate_antilog, hG.exponentiate_antilog,
    hG.exponentiateInverse_antilog, hG.multiply_antilog, hG.multiply_antilog, hG.antilog_inj,
    hG.antilog_inj, ← sub_eq_add_neg, sub_eq_iff_eq_add]

end Statement

/-! ## The two transcripts -/

namespace Transcript

/-- The prover's transcript for the randomness `r`. -/
def proven (S : Statement G k) (w : G.Scalar) (e : Challenge) (r : G.Scalar) : Transcript G k :=
  ⟨S.commit r, e, G.add r (G.mul (e.scalar G) w)⟩

/-- The simulator's transcript for the response `z`. -/
def simulated (S : Statement G k) (e : Challenge) (z : G.Scalar) : Transcript G k :=
  ⟨S.backSolve (e.scalar G) z, e, z⟩

variable {S : Statement G k} {w : G.Scalar} {e : Challenge}

theorem simulated_injective (S : Statement G k) (e : Challenge) :
    Function.Injective (simulated S e) :=
  fun _ _ h => congrArg Transcript.z h

theorem proven_eq_simulated (hG : G.PrimeOrder) (hS : S.isValid = true) (hw : S.holds w = true)
    (r : G.Scalar) : proven S w e r = simulated S e (G.add r (G.mul (e.scalar G) w)) := by
  unfold proven simulated
  rw [Statement.backSolve_respond hG hS hw]

end Transcript

/-- The response is a shift of the randomness, so it takes every value once. -/
theorem CyclicGroup.add_bijective (x : G.Scalar) : Function.Bijective fun r => G.add r x := by
  simp only [add_eq_shift]
  exact (shift (toZMod x)).bijective

theorem CyclicGroup.add_neg_add_cancel (z x : G.Scalar) : G.add (G.add z (G.neg x)) x = z :=
  toZMod_injective (by simp)

/-! ## Runs -/

namespace SigmaRole

open Transcript

/-- The transcript of a prover that keeps to the protocol and a given challenge. -/
def transcribe (role : SigmaRole G) (S : Statement G k) (w : G.Scalar) (e : Challenge) :
    Attempt (Transcript G k) := do
  let (state, a) ← role.announce S w
  match role.respond state e with
  | .ok z => return ⟨a, e, z⟩
  | .error cause => Attempt.fail (.cheating cause)

variable {role : SigmaRole G} {S : Statement G k} {w r z : G.Scalar} {e : Challenge}
  {s s' : Source}

theorem yields_transcribe (hw : S.holds w = true)
    (he : e.bytes.length = role.soundness.challengeLength) (h : G.nextScalar s = some (r, s')) :
    (role.transcribe S w e).Yields s (proven S w e r, s') := by
  unfold transcribe
  refine (yields_announce hw h).bind ?_
  simp only [respond_eq he]
  exact Attempt.Yields.pure _ s'

theorem yields_simulate (he : e.bytes.length = role.soundness.challengeLength)
    (h : G.nextScalar s = some (z, s')) :
    (role.simulate S (some e)).Yields s (simulated S e z, s') := by
  unfold simulate
  simp only [Challenge.check_eq_ok_iff.2 he, pure_bind]
  refine (Attempt.Yields.of (yields_randomScalar h)).bind ?_
  exact Attempt.Yields.pure _ s'

/-- A simulator that is given no challenge draws one before the response. -/
theorem yields_simulate_none (he : e.bytes = s.peek role.soundness.challengeLength)
    (h : G.nextScalar (s.advance role.soundness.challengeLength) = some (z, s')) :
    (role.simulate S none).Yields s (simulated S e z, s') := by
  have hrandom := Challenge.yields_random role.soundness s
  rw [← he] at hrandom
  unfold simulate
  refine (Attempt.Yields.of hrandom).bind ?_
  refine (Attempt.Yields.of (yields_randomScalar h)).bind ?_
  exact Attempt.Yields.pure _ s'

theorem verdict_proven (hG : G.PrimeOrder) (hS : S.isValid = true) (hw : S.holds w = true)
    (he : e.bytes.length = role.soundness.challengeLength) (r : G.Scalar) :
    role.verdict S (proven S w e r) = true :=
  verdict_respond hG hS hw he r

/-- What is accepted is simulated with its own response. -/
theorem simulated_of_verdict (hG : G.PrimeOrder) {t : Transcript G k}
    (h : role.verdict S t = true) : simulated S t.e t.z = t := by
  obtain ⟨-, hS, ha, hcheck⟩ := verdict_iff.1 h
  unfold simulated
  rw [(Statement.check_iff_eq_backSolve hG hS ha _ _).1 hcheck]

theorem verdict_iff_existsUnique_simulated (hG : G.PrimeOrder) (hS : S.isValid = true)
    (hw : S.holds w = true) (he : e.bytes.length = role.soundness.challengeLength)
    (t : Transcript G k) :
    role.verdict S t = true ∧ t.e = e ↔ ∃! z, simulated S e z = t := by
  constructor
  · rintro ⟨h, rfl⟩
    have ht := simulated_of_verdict hG h
    exact ⟨t.z, ht, fun z hz => simulated_injective S t.e (hz.trans ht.symm)⟩
  · rintro ⟨z, rfl, -⟩
    -- the response is that to some randomness, and that transcript is accepted
    obtain ⟨r, rfl⟩ := (add_bijective (G.mul (e.scalar G) w)).surjective z
    refine ⟨?_, rfl⟩
    simp only [← proven_eq_simulated hG hS hw]
    exact verdict_proven hG hS hw he r

/-- Perfect simulation for honest verifiers. For a true statement and a challenge of the right
length, the announcement solved for the honest response is the honest one, and the response
permutes the exponents; so the simulator whose source gives `z` puts out the transcript of the
prover whose source gives `z - e * w`, and the transcripts that verifiers accept under the
challenge are those of exactly one randomness and those of exactly one response. -/
theorem simulation_perfect (hG : G.PrimeOrder) (prover simulator : SigmaRole G)
    (hrole : prover.soundness = simulator.soundness) (S : Statement G k) (w : G.Scalar)
    (e : Challenge) (hS : S.isValid = true) (hw : S.holds w = true)
    (he : e.bytes.length = simulator.soundness.challengeLength) :
    (∀ r, S.backSolve (e.scalar G) (G.add r (G.mul (e.scalar G) w)) = S.commit r) ∧
    Function.Bijective (fun r => G.add r (G.mul (e.scalar G) w)) ∧
    (∀ z s s',
      (G.nextScalar s = some (z, s') →
        (simulator.simulate S (some e)).Yields s (simulated S e z, s')) ∧
      (e.bytes = s.peek simulator.soundness.challengeLength →
        G.nextScalar (s.advance simulator.soundness.challengeLength) = some (z, s') →
        (simulator.simulate S none).Yields s (simulated S e z, s')) ∧
      (G.nextScalar s = some (G.add z (G.neg (G.mul (e.scalar G) w)), s') →
        (prover.transcribe S w e).Yields s (simulated S e z, s'))) ∧
    ∀ verifier : SigmaRole G, verifier.soundness = simulator.soundness → ∀ t : Transcript G k,
      (verifier.Accepts S t ∧ t.e = e ↔ ∃! r, proven S w e r = t) ∧
      (verifier.Accepts S t ∧ t.e = e ↔ ∃! z, simulated S e z = t) := by
  have he' : e.bytes.length = prover.soundness.challengeLength := by rw [hrole]; exact he
  have hbijective := add_bijective (G.mul (e.scalar G) w)
  refine ⟨fun r => Statement.backSolve_respond hG hS hw r _, hbijective, fun z s s' => ?_, ?_⟩
  · refine ⟨yields_simulate he, yields_simulate_none, fun h => ?_⟩
    have hproven := yields_transcribe hw he' h
    rwa [proven_eq_simulated hG hS hw, add_neg_add_cancel] at hproven
  · intro verifier hverifier t
    have hez : e.bytes.length = verifier.soundness.challengeLength := by rw [hverifier]; exact he
    have hz : verifier.verdict S t = true ∧ t.e = e ↔ ∃! z, simulated S e z = t :=
      verdict_iff_existsUnique_simulated hG hS hw hez t
    rw [accepts_iff_verdict]
    refine ⟨hz.trans ?_, hz⟩
    -- responses and randomness are in bijection
    simp only [proven_eq_simulated hG hS hw]
    exact hbijective.existsUnique_iff (p := fun z => simulated S e z = t)

/-- A source of the exponent `266`, which is `-15`, from two bytes and zeros. -/
def source266 : Source := ⟨fun n => if n = 0 then 10 else if n = 1 then 1 else 0, 0, 0⟩

theorem simulation_perfect_order281 :
    (order281.simulate triple (some ⟨[5]⟩)).Yields (.constant 0)
      (simulated triple ⟨[5]⟩ (zero _), (Source.constant 0).advance 8) ∧
    (order281.transcribe triple (scalar _ 3) ⟨[5]⟩).Yields source266
      (simulated triple ⟨[5]⟩ (zero _), source266.advance 8) ∧
    ∃! r, proven triple (scalar _ 3) ⟨[5]⟩ r = simulated triple ⟨[5]⟩ (zero _) := by
  obtain ⟨-, -, hruns, hunique⟩ := simulation_perfect Residues.primeOrder_order281 order281 order281
    rfl triple (scalar _ 3) ⟨[5]⟩ (by decide +kernel) (by decide +kernel) rfl
  refine ⟨(hruns _ _ _).1 rfl, (hruns _ _ _).2.2 rfl, ?_⟩
  exact (hunique order281 rfl _).1.1 ⟨accepts_iff_verdict.2 (by decide +kernel), rfl⟩

end SigmaRole

end TwoParty
