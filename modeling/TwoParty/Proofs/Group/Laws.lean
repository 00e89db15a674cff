/-
The groups of residues of two primes. By Euler's criterion the generators that are admitted are the
squares. The members are then the powers of the generator, as many as the order says, and exponents
act on them as the integers modulo the order do.
-/
import TwoParty.Proofs.Group.Powers
import Mathlib.NumberTheory.LegendreSymbol.Basic

namespace TwoParty

/-! ## Exponents -/

namespace CyclicGroup

/-- Members are closed under the operations, their powers multiply and iterate as exponents add and
multiply, and the operations on exponents are those on integers, reduced to below the order. -/
structure ExponentLaws (G : CyclicGroup) : Prop where
  isMember_multiply {x y : G.Element} : G.isMember x = true → G.isMember y = true →
    G.isMember (G.multiply x y) = true
  isMember_exponentiate {x : G.Element} (a : G.Scalar) : G.isMember x = true →
    G.isMember (G.exponentiate x a) = true
  isMember_exponentiateInverse {x : G.Element} (a : G.Scalar) : G.isMember x = true →
    G.isMember (G.exponentiateInverse x a) = true
  exponentiate_add {x : G.Element} (a b : G.Scalar) : G.isMember x = true →
    G.exponentiate x (G.add a b) = G.multiply (G.exponentiate x a) (G.exponentiate x b)
  exponentiate_mul {x : G.Element} (a b : G.Scalar) : G.isMember x = true →
    G.exponentiate x (G.mul a b) = G.exponentiate (G.exponentiate x a) b
  exponentiate_neg {x : G.Element} (a : G.Scalar) : G.isMember x = true →
    G.multiply (G.exponentiate x (G.neg a)) (G.exponentiate x a) = G.identity
  exponentiate_one {x : G.Element} : G.isMember x = true → G.exponentiate x G.one = x
  val_add (a b : G.Scalar) : ((G.add a b).val : ℤ) = (a.val + b.val : ℤ) % G.order
  val_mul (a b : G.Scalar) : ((G.mul a b).val : ℤ) = (a.val * b.val : ℤ) % G.order
  val_neg (a : G.Scalar) : ((G.neg a).val : ℤ) = (-a.val : ℤ) % G.order

variable {G : CyclicGroup}

/-- The reduced difference to the order is the negated exponent, also for zero. -/
theorem intCast_val_neg (a : G.Scalar) : ((G.neg a).val : ℤ) = (-a.val : ℤ) % G.order := by
  have hval : (G.neg a).val = (G.order - a.val) % G.order := rfl
  rw [hval, Int.natCast_mod, Nat.cast_sub a.isLt.le, sub_eq_add_neg, Int.add_emod_left]

theorem PrimeOrder.exponentLaws (hG : G.PrimeOrder) : G.ExponentLaws where
  isMember_multiply := hG.isMember_multiply
  isMember_exponentiate a hx := hG.isMember_exponentiate hx a
  isMember_exponentiateInverse a hx := hG.isMember_exponentiate hx (G.neg a)
  exponentiate_add a b hx := hG.powerLaws.exponentiate_add a b hx
  exponentiate_mul a b hx := by
    obtain ⟨l, rfl⟩ := hG.exists_antilog hx
    rw [hG.exponentiate_antilog, hG.exponentiate_antilog, hG.exponentiate_antilog, toZMod_mul,
      mul_assoc]
  exponentiate_neg a hx := by
    obtain ⟨l, rfl⟩ := hG.exists_antilog hx
    rw [hG.exponentiate_antilog, hG.exponentiate_antilog, hG.multiply_antilog, toZMod_neg, mul_neg,
      neg_add_cancel, hG.identity_eq_antilog]
  exponentiate_one hx := by
    obtain ⟨l, rfl⟩ := hG.exists_antilog hx
    rw [hG.exponentiate_antilog, toZMod_one, mul_one]
  val_add a b := by
    have hval : (G.add a b).val = (a.val + b.val) % G.order := rfl
    rw [hval, Int.natCast_mod, Nat.cast_add]
  val_mul a b := by
    have hval : (G.mul a b).val = a.val * b.val % G.order := rfl
    rw [hval, Int.natCast_mod, Nat.cast_mul]
  val_neg := intCast_val_neg

end CyclicGroup

/-! ## Powers modulo a number -/

theorem powerModulo_lt {p : Nat} (hp : 0 < p) (a e : Nat) : powerModulo p a e < p := by
  unfold powerModulo powerBy
  -- either way the last step is a remainder
  rw [powerBits]
  split
  · exact Nat.mod_lt _ hp
  · exact Nat.mod_lt _ hp

theorem powerModulo_eq_one_iff {p : Nat} (hp : 1 < p) (a e : Nat) :
    powerModulo p a e = 1 ↔ (a : ZMod p) ^ e = 1 := by
  have hcast : (powerModulo p a e : ZMod p) = (1 : Nat) ↔ powerModulo p a e = 1 := by
    rw [ZMod.natCast_eq_natCast_iff', Nat.mod_eq_of_lt (powerModulo_lt (by omega) a e),
      Nat.mod_eq_of_lt hp]
  rw [← hcast, cast_powerModulo, Nat.cast_one]

namespace Residues

open CyclicGroup

variable {R : Residues}

/-! ## Parameters -/

/-- Below a prime `2 * q + 1` the power to `q` is one exactly for the squares. -/
theorem powerModulo_eq_one_iff_isSquare {q g : Nat} (hp : (2 * q + 1).Prime) (hg : 0 < g)
    (hlt : g < 2 * q + 1) :
    powerModulo (2 * q + 1) g q = 1 ↔ IsSquare (g : ZMod (2 * q + 1)) := by
  have := Fact.mk hp
  have hne : (g : ZMod (2 * q + 1)) ≠ 0 := by
    rw [ne_eq, ZMod.natCast_eq_zero_iff]
    exact Nat.not_dvd_of_pos_of_lt hg hlt
  have hhalf : (2 * q + 1) / 2 = q := by omega
  rw [powerModulo_eq_one_iff hp.one_lt, ZMod.euler_criterion _ hne, hhalf]

/-- What the construction admits, for a prime modulus. -/
theorem exists_new?_iff {p : Nat} (hp : p.Prime) (q g : Nat) :
    (∃ R, new? p q g = .ok R) ↔ (p = 2 * q + 1 ∧ p < 2 ^ 63 ∧ q % 2 = 1) ∧
      IsSquare (g : ZMod p) ∧ 1 < g ∧ g < p := by
  have hlimit : limit = 2 ^ 63 := by norm_num [limit]
  rw [← hlimit]
  unfold new?
  constructor
  · rintro ⟨R, h⟩
    split_ifs at h with hlt hpq hq hg hpower
    subst hpq
    exact ⟨⟨rfl, hlt, hq⟩, (powerModulo_eq_one_iff_isSquare hp (by omega) hg.2).1 hpower, hg⟩
  · rintro ⟨⟨rfl, hlt, hq⟩, hsquare, hg⟩
    have hpower := (powerModulo_eq_one_iff_isSquare hp (by omega) hg.2).2 hsquare
    rw [dif_pos hlt, dif_pos rfl, dif_pos hq, dif_pos hg, dif_pos hpower]
    exact ⟨_, rfl⟩

/-! ## Members -/

theorem val_eq_mod_iff {x : R.group.Element} {n : Nat} :
    Fin.val (n := R.modulus) x = n % R.modulus ↔ value x = (n : ZMod R.modulus) := by
  have hlt : Fin.val (n := R.modulus) x < R.modulus := Fin.isLt _
  unfold value
  rw [ZMod.natCast_eq_natCast_iff', Nat.mod_eq_of_lt hlt]

theorem val_exponentiateGenerator (e : R.group.Scalar) :
    Fin.val (n := R.modulus) (R.group.exponentiateGenerator e) =
      R.generator ^ e.val % R.modulus := by
  rw [val_eq_mod_iff, value_exponentiateGenerator, Nat.cast_pow]

theorem isMember_iff_exists_pow (hR : R.group.PrimeOrder) (x : R.Element) :
    R.isMember x = true ↔ ∃ i < R.order, x.val = R.generator ^ i % R.modulus := by
  refine (hR.isMember_iff x).trans ⟨?_, ?_⟩
  · rintro ⟨e, rfl⟩
    exact ⟨e.val, e.isLt, val_exponentiateGenerator e⟩
  · rintro ⟨i, hi, hx⟩
    exact ⟨⟨i, hi⟩, Fin.ext ((val_exponentiateGenerator ⟨i, hi⟩).trans hx.symm)⟩

theorem injOn_pow (hR : R.group.PrimeOrder) :
    Set.InjOn (fun i => R.generator ^ i % R.modulus) (Set.Iio R.order) := by
  intro i hi j hj h
  have hlog := hR.logarithm_unique ⟨i, hi⟩ ⟨j, hj⟩ (Fin.ext
    ((val_exponentiateGenerator ⟨i, hi⟩).trans (h.trans (val_exponentiateGenerator ⟨j, hj⟩).symm)))
  exact congrArg Fin.val hlog

/-- An element of a second group belongs to the first if the moduli agree and its integer is a
power of the first generator. -/
theorem isForeignMember_iff_exists_pow (hR : R.group.PrimeOrder) (S : Residues) (x : S.Element) :
    R.isForeignMember S x = true ↔
      S.modulus = R.modulus ∧ ∃ i < R.order, x.val = R.generator ^ i % R.modulus := by
  unfold isForeignMember
  by_cases h : S.modulus = R.modulus
  · have hval : (R.residue x.val).val = x.val := Nat.mod_eq_of_lt (by rw [← h]; exact x.isLt)
    rw [if_pos h, isMember_iff_exists_pow hR, hval]
    exact (and_iff_right h).symm
  · rw [if_neg h]
    exact iff_of_false (by simp) fun hx => h hx.1

/-! ## The laws -/

/-- The members are exactly the powers of the generator with exponents below the order, which are
all different; elements of other groups are members only as such powers; and exponents satisfy
their laws. -/
structure Laws (R : Residues) : Prop where
  isMember_iff (x : R.Element) :
    R.isMember x = true ↔ ∃ i < R.order, x.val = R.generator ^ i % R.modulus
  isForeignMember_iff (S : Residues) (x : S.Element) : R.isForeignMember S x = true ↔
    S.modulus = R.modulus ∧ ∃ i < R.order, x.val = R.generator ^ i % R.modulus
  powers_distinct : Set.InjOn (fun i => R.generator ^ i % R.modulus) (Set.Iio R.order)
  val_exponentiateGenerator (e : R.group.Scalar) :
    Fin.val (n := R.modulus) (R.group.exponentiateGenerator e) = R.generator ^ e.val % R.modulus
  exponents : R.group.ExponentLaws

/-- For two primes the construction admits exactly a safe modulus below `2 ^ 63` with an odd order
and a square as generator, and the group that it returns has the laws of a cyclic group of prime
order on which exponents act. -/
theorem construction_lawful {p q : Nat} (hp : p.Prime) (hq : q.Prime) (g : Nat) :
    ((∃ R, new? p q g = .ok R) ↔ (p = 2 * q + 1 ∧ p < 2 ^ 63 ∧ q % 2 = 1) ∧
      IsSquare (g : ZMod p) ∧ 1 < g ∧ g < p) ∧
    ∀ R, new? p q g = .ok R →
      (R.modulus = p ∧ R.order = q ∧ R.generator = g) ∧ R.Laws := by
  refine ⟨exists_new?_iff hp q g, fun R h => ?_⟩
  obtain ⟨rfl, rfl, rfl⟩ := new?_ok h
  have hR := primeOrder hp hq
  exact ⟨⟨rfl, rfl, rfl⟩,
    { isMember_iff := isMember_iff_exists_pow hR
      isForeignMember_iff := isForeignMember_iff_exists_pow hR
      powers_distinct := injOn_pow hR
      val_exponentiateGenerator := val_exponentiateGenerator
      exponents := hR.exponentLaws }⟩

/-- Two is a square modulo 23, and five is not. -/
theorem construction_lawful_order11 : new? 23 11 2 = .ok order11 ∧ order11.Laws ∧
    ¬ ∃ R, new? 23 11 5 = .ok R := by
  have hp : Nat.Prime 23 := by norm_num
  have hq : Nat.Prime 11 := by norm_num
  refine ⟨rfl, ((construction_lawful hp hq 2).2 order11 rfl).2, fun h => ?_⟩
  have hsquare : IsSquare ((5 : Nat) : ZMod 23) := ((construction_lawful hp hq 5).1.1 h).2.1
  exact absurd hsquare (by decide)

end Residues

end TwoParty
