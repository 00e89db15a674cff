/-
Provers and verifiers report what they detect. A prover that is challenged with the wrong number of
bytes says so; a verifier accuses whoever sends what cannot be read, and warns besides of a proof
that it cannot check, which then does not convince.
-/
import TwoParty.Proofs.Sigma.Transcript
import TwoParty.Proofs.Warnings
import TwoParty.Sigma.Interactive

namespace TwoParty

namespace SigmaRole

variable {G : CyclicGroup} {k : Nat} (role : SigmaRole G) (S : Statement G k)

theorem quiet_challenge : role.challenge.Quiet := fun _ => trivial

theorem reports_announce (w : G.Scalar) : (role.announce S w).Reports role.span := by
  refine .ite (fun _ => ?_) fun _ => .fail nofun
  refine .bind (.quiet Program.quiet_randomScalar) fun r _ => .bind (.note rfl) fun _ _ => ?_
  exact .pure trivial id

theorem reports_prove (w : G.Scalar) : (role.prove S w).Reports role.span := by
  refine (role.reports_announce S w).bind fun (state, a) _ => ?_
  refine .bind .send fun _ _ => .bind .receive fun e _ => ?_
  split
  · exact .report ⟨rfl, rfl, _, .head _, .inr rfl⟩
  · exact .bind .send fun _ _ => .note rfl

/-- The verdict is false if the verifier has warned. -/
theorem tells_verify (t : Transcript G k) :
    (Attempt.of (role.verify S t)).Tells False role.span (fun _ => True) (· = false) := by
  obtain ⟨event, heq, hwarning⟩ := role.verify_eq S t
  rw [heq]
  refine .of fun e => .of_run rfl ⟨trivial, ?_⟩
  rintro ⟨_, hmem, hwarns⟩
  obtain rfl := List.mem_singleton.1 hmem
  exact hwarning hwarns

theorem tells_receiveProof :
    (role.receiveProof S).Tells False role.span (fun _ => True) (· = false) := by
  refine .bind .receive fun message _ => .bind .judge fun a _ => ?_
  refine .bind (.quiet role.quiet_challenge) fun e _ => .bind .send fun _ _ => ?_
  refine .bind .receive fun message _ => .bind .judge fun z _ => ?_
  exact role.tells_verify S ⟨a, e, z⟩

end SigmaRole

end TwoParty
