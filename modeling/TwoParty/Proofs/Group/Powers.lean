/-
Powers of members: they are members, they multiply as their exponents add, and a factor that is a
power is taken out again by the power with the negated exponent. This needs less than the laws of
`PrimeOrder`; every group of residues has it, whether its order is prime or not.
-/
import TwoParty.Proofs.Group.Residues

namespace TwoParty

namespace CyclicGroup

structure PowerLaws (G : CyclicGroup) : Prop where
  isMember_generator : G.isMember G.generator = true
  isMember_exponentiate {a : G.Element} (e : G.Scalar) :
    G.isMember a = true → G.isMember (G.exponentiate a e) = true
  exponentiate_add {a : G.Element} (e f : G.Scalar) : G.isMember a = true →
    G.exponentiate a (G.add e f) = G.multiply (G.exponentiate a e) (G.exponentiate a f)
  cancel {a b : G.Element} (e : G.Scalar) : G.isMember a = true → G.isMember b = true →
    G.multiply (G.multiply a (G.exponentiate b e)) (G.exponentiateInverse b e) = a

theorem PrimeOrder.powerLaws {G : CyclicGroup} (hG : G.PrimeOrder) : G.PowerLaws where
  isMember_generator := hG.isMember_generator
  isMember_exponentiate e ha := hG.isMember_exponentiate ha e
  exponentiate_add e f ha := by
    obtain ⟨x, rfl⟩ := hG.exists_antilog ha
    rw [hG.exponentiate_antilog, hG.exponentiate_antilog, hG.exponentiate_antilog,
      hG.multiply_antilog, toZMod_add, mul_add]
  cancel e ha hb := by
    obtain ⟨x, rfl⟩ := hG.exists_antilog ha
    obtain ⟨y, rfl⟩ := hG.exists_antilog hb
    rw [hG.exponentiate_antilog, hG.exponentiateInverse_antilog, hG.multiply_antilog,
      hG.multiply_antilog, add_neg_cancel_right]

end CyclicGroup

/-- The members are roots of unity, so exponents count modulo the order. -/
theorem Residues.powerLaws (R : Residues) : R.group.PowerLaws where
  isMember_generator := by
    rw [isMember_iff_pow, value_generator, generator_pow_order]
  isMember_exponentiate e ha := by
    rw [isMember_iff_pow] at ha ⊢
    unfold CyclicGroup.exponentiate
    rw [value_power, pow_right_comm, ha, one_pow]
  exponentiate_add {a} e f ha := by
    rw [isMember_iff_pow] at ha
    apply value_injective
    unfold CyclicGroup.exponentiate
    rw [value_multiply, value_power, value_power, value_power, ← pow_add]
    exact (pow_eq_pow_mod _ ha).symm
  cancel {a b} e _ hb := by
    rw [isMember_iff_pow] at hb
    apply value_injective
    unfold CyclicGroup.exponentiateInverse CyclicGroup.exponentiate
    have hneg : value b ^ (R.group.neg e).val = value b ^ (R.order - e.val) :=
      (pow_eq_pow_mod _ hb).symm
    have hsum : e.val + (R.order - e.val) = R.order := Nat.add_sub_cancel' e.isLt.le
    rw [value_multiply, value_multiply, value_power, value_power, hneg, mul_assoc, ← pow_add,
      hsum, hb, mul_one]

end TwoParty
