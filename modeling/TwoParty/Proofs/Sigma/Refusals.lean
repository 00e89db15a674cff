/-
Provers and verifiers blame their callers for nothing but a witness that does not satisfy the
statement, and for this before anything is drawn or sent.
-/
import TwoParty.Proofs.Refusals
import TwoParty.Sigma.Interactive

namespace TwoParty

/-- The refusal of a witness. -/
def Statement.refusal? {G : CyclicGroup} {k : Nat} (S : Statement G k) (w : G.Scalar) :
    Option ProtocolError :=
  if S.holds w then none else some (.input .witnessMismatch)

namespace SigmaRole

variable {G : CyclicGroup} {k : Nat} (role : SigmaRole G) {S : Statement G k} {w : G.Scalar}

/-- Parameters that were admitted once are admitted again, with any span. -/
theorem new?_again {config : SigmaConfig} (h : new? G config = .ok role) (span : Option String) :
    new? G { config with span } = .ok { role with span } := by
  unfold new? at h ⊢
  rcases hsoundness : Soundness.new? G.order config.soundnessBits with cause | soundness
  · rw [hsoundness] at h
    cases h
  · rw [hsoundness] at h
    cases h
    rfl

theorem blameless_announce (h : S.holds w = true) :
    (role.announce S w).Blameless fun _ => True := by
  unfold announce
  rw [if_pos h]
  exact .andThen .program fun r => .andThen .note fun _ => .pure trivial

theorem announce_eq_fail (h : ¬ S.holds w = true) :
    role.announce S w = Attempt.fail (.input .witnessMismatch) := by
  unfold announce
  rw [if_neg h]

theorem blameless_prove (h : S.holds w = true) : (role.prove S w).Blameless fun _ => True := by
  refine (role.blameless_announce h).andThen fun (state, a) => ?_
  refine .andThen .send fun _ => .andThen .receive fun e => ?_
  rcases hresponse : role.respond state e with cause | z
  · exact .andThen .note fun _ => .fail rfl
  · exact .andThen .send fun _ => .note

theorem refuses_prove (S : Statement G k) (w : G.Scalar) :
    (role.prove S w).Refuses (S.refusal? w) := by
  unfold Statement.refusal?
  split
  · rename_i h
    exact .blameless (role.blameless_prove h)
  · rename_i h
    unfold prove
    rw [role.announce_eq_fail h]
    exact .fail

theorem blameless_receiveProof (S : Statement G k) :
    (role.receiveProof S).Blameless fun _ => True := by
  refine .andThen .receive fun message => .andThen .judge fun a => .andThen .program fun e => ?_
  refine .andThen .send fun _ => .andThen .receive fun message => .andThen .judge fun z => ?_
  exact .program

end SigmaRole

end TwoParty
