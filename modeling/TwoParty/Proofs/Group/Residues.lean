/-
Residues modulo a prime `p = 2 * q + 1` with `q` prime: the members are the `q`-th roots of unity,
hence the powers of the generator, and the group of order `q` satisfies the laws of `PrimeOrder`.
-/
import TwoParty.Proofs.Group.Primality
import TwoParty.Proofs.Group.PrimeOrder
import Mathlib.RingTheory.RootsOfUnity.PrimitiveRoots

namespace TwoParty.Residues

open CyclicGroup

variable {R : Residues}

instance : NeZero R.modulus := ⟨R.modulus_pos.ne'⟩

/-- What the construction accepts is what it returns. -/
theorem new?_ok {p q g : Nat} (h : new? p q g = .ok R) :
    p = R.modulus ∧ q = R.order ∧ g = R.generator := by
  unfold new? at h
  split_ifs at h with hp hpq hq hg hgen
  cases h
  exact ⟨hpq.symm, rfl, rfl⟩

/-! ## Elements as residues -/

/-- An element as an integer modulo the modulus. -/
def value (a : R.group.Element) : ZMod R.modulus := (Fin.val (n := R.modulus) a : Nat)

theorem value_injective : Function.Injective (value (R := R)) := by
  intro a b h
  have hlt : ∀ c : R.group.Element, Fin.val (n := R.modulus) c < R.modulus := Fin.isLt
  have := congrArg ZMod.val h
  rw [value, value, ZMod.val_natCast_of_lt (hlt a), ZMod.val_natCast_of_lt (hlt b)] at this
  exact Fin.ext this

theorem value_identity : value R.group.identity = 1 :=
  (ZMod.natCast_mod 1 R.modulus).trans Nat.cast_one

theorem value_generator : value R.group.generator = (R.generator : ZMod R.modulus) :=
  ZMod.natCast_mod R.generator R.modulus

theorem value_multiply (a b : R.group.Element) :
    value (R.group.multiply a b) = value a * value b :=
  (ZMod.natCast_mod _ R.modulus).trans (Nat.cast_mul _ _)

theorem value_power (a : R.group.Element) (e : Nat) : value (R.group.power a e) = value a ^ e :=
  map_powerBy value_identity value_multiply a e

/-- The members are the roots of unity. -/
theorem isMember_iff_pow (a : R.group.Element) :
    R.group.isMember a = true ↔ value a ^ R.order = 1 := by
  rw [← value_power, ← value_identity, value_injective.eq_iff]
  exact decide_eq_true_iff

/-! ## The generator -/

theorem generator_pow_order : (R.generator : ZMod R.modulus) ^ R.order = 1 := by
  have hgen : powerModulo R.modulus R.generator R.order = 1 := R.generates
  rw [← cast_powerModulo, hgen, Nat.cast_one]

theorem generator_ne_one : (R.generator : ZMod R.modulus) ≠ 1 := by
  intro h
  have hlt : R.generator < R.modulus := R.generator_lt
  have hone := R.one_lt_generator
  have hval : R.generator % R.modulus = 1 % R.modulus :=
    (ZMod.natCast_eq_natCast_iff' _ _ _).1 (by rw [h, Nat.cast_one])
  rw [Nat.mod_eq_of_lt hlt, Nat.mod_eq_of_lt (hone.trans hlt)] at hval
  omega

/-- A prime order makes the modulus a prime as well: the units modulo `p` are an even number that
the order `q` divides, which leaves room for nothing below `2 * q`. -/
theorem modulus_prime (hq : R.order.Prime) : R.modulus.Prime := by
  have := Fact.mk hq
  have hq2 := hq.two_le
  have hodd : Nat.Coprime 2 R.order := Nat.coprime_two_left.2 (Nat.odd_iff.2 R.order_odd)
  have hmodulus : R.modulus = 2 * R.order + 1 := rfl
  obtain ⟨u, hu⟩ := IsUnit.of_pow_eq_one (generator_pow_order (R := R)) hq.ne_zero
  have horder : orderOf u = R.order := by
    rw [← orderOf_units, hu]
    exact orderOf_eq_prime generator_pow_order generator_ne_one
  have hdvd : R.order ∣ R.modulus.totient := by
    rw [← horder, ← ZMod.card_units_eq_totient]
    exact orderOf_dvd_card
  have heven : 2 ∣ R.modulus.totient := (Nat.totient_even (by omega)).two_dvd
  have hle : 2 * R.order ≤ R.modulus.totient :=
    Nat.le_of_dvd (Nat.totient_pos.2 R.modulus_pos) (hodd.mul_dvd_of_dvd_of_dvd heven hdvd)
  have hlt := Nat.totient_lt R.modulus (by omega)
  exact (Nat.totient_eq_iff_prime R.modulus_pos).1 (by omega)

/-- As the order is prime, the generator is a primitive root of unity. -/
theorem isPrimitiveRoot_generator (hq : R.order.Prime) :
    IsPrimitiveRoot (R.generator : ZMod R.modulus) R.order := by
  have := Fact.mk hq
  rw [IsPrimitiveRoot.iff_orderOf]
  exact orderOf_eq_prime generator_pow_order generator_ne_one

theorem value_exponentiateGenerator (e : R.group.Scalar) :
    value (R.group.exponentiateGenerator e) = (R.generator : ZMod R.modulus) ^ e.val := by
  unfold exponentiateGenerator exponentiate
  rw [value_power, value_generator]

theorem pow_val_scalar (n : Nat) :
    (R.generator : ZMod R.modulus) ^ (R.group.scalar n).val =
      (R.generator : ZMod R.modulus) ^ n := by
  show _ ^ (n % R.order) = _
  conv_rhs =>
    rw [← Nat.div_add_mod n R.order, pow_add, pow_mul, generator_pow_order, one_pow, one_mul]

/-! ## Encodings -/

theorem val_pos_of_isMember (hp : R.modulus.Prime) {a : R.group.Element}
    (ha : R.group.isMember a = true) : 0 < Fin.val (n := R.modulus) a := by
  have := Fact.mk hp
  rw [isMember_iff_pow] at ha
  -- no power of zero is one, so zero is no member
  rcases Nat.eq_zero_or_pos (Fin.val (n := R.modulus) a) with h0 | h0
  · have hq := R.order_odd
    unfold value at ha
    rw [h0, Nat.cast_zero, zero_pow (by omega)] at ha
    exact absurd ha zero_ne_one
  · exact h0

theorem val_lt_width (a : R.group.Element) : Fin.val (n := R.modulus) a < 256 ^ 8 := by
  have hlt : Fin.val (n := R.modulus) a < R.modulus := Fin.isLt _
  have := R.modulus_lt
  simp only [limit, modulus] at *
  omega

/-- What is read is the written form of a residue other than zero. -/
theorem decode?_eq_some_iff {bytes : Bytes} {a : R.group.Element} :
    R.group.decode? bytes = some a ↔
      0 < Fin.val (n := R.modulus) a ∧ bytes = R.group.encode a := by
  show (if bytes.length = 8 then R.element? bytes.bigEndian else none) = some a ↔
    _ ∧ bytes = Bytes.toBigEndian 8 (Fin.val (n := R.modulus) a)
  unfold element?
  constructor
  · intro h
    split_ifs at h with hlen hn
    cases h
    refine ⟨hn.1, ?_⟩
    rw [← hlen, Bytes.toBigEndian_bigEndian]
  · rintro ⟨hpos, rfl⟩
    have hread := Bytes.bigEndian_toBigEndian (Nat.pow_eq.symm ▸ val_lt_width a)
    rw [if_pos (Bytes.length_toBigEndian _ _), dif_pos (by rw [hread]; exact ⟨hpos, Fin.isLt _⟩)]
    exact congrArg some (Fin.ext hread)

theorem decode?_encode (hp : R.modulus.Prime) {a : R.group.Element}
    (ha : R.group.isMember a = true) : R.group.decode? (R.group.encode a) = some a :=
  decode?_eq_some_iff.2 ⟨val_pos_of_isMember hp ha, rfl⟩

/-! ## The laws -/

theorem compact (R : Residues) : R.group.Compact where
  length_encode_lt a := by
    have hlen : (R.group.encode a).length = 8 := Bytes.length_toBigEndian _ _
    rw [hlen]
    norm_num
  scalarWidth_lt := show 8 < 2 ^ 64 by norm_num

/-- The group of residues of two primes is cyclic of prime order. -/
theorem primeOrder (hp : R.modulus.Prime) (hq : R.order.Prime) : R.group.PrimeOrder := by
  have := Fact.mk hp
  have : NeZero R.order := ⟨hq.ne_zero⟩
  have hroot := isPrimitiveRoot_generator hq
  refine
    { prime := hq
      isMember_iff := fun a => ?_
      logarithm_unique := fun e f h => ?_
      generator_eq := value_injective ?_
      identity_eq := value_injective ?_
      multiply_eq := fun e f => value_injective ?_
      exponentiate_eq := fun e f => value_injective ?_
      decode?_encode := fun a ha => decode?_encode hp ha
      length_encode_lt := fun a _ => R.compact.length_encode_lt a
      scalarWidth_lt := R.compact.scalarWidth_lt }
  · -- a root of unity is a power of the primitive one
    rw [isMember_iff_pow]
    constructor
    · intro h
      obtain ⟨i, hi, hpow⟩ := hroot.eq_pow_of_pow_eq_one h
      exact ⟨⟨i, hi⟩, value_injective (by rw [value_exponentiateGenerator, hpow])⟩
    · rintro ⟨e, rfl⟩
      rw [value_exponentiateGenerator, ← pow_mul, mul_comm, pow_mul, generator_pow_order, one_pow]
  · have := congrArg value h
    rw [value_exponentiateGenerator, value_exponentiateGenerator] at this
    exact Fin.ext (hroot.pow_inj e.isLt f.isLt this)
  · rw [value_exponentiateGenerator, value_generator]
    exact (pow_val_scalar 1).trans (pow_one _)
  · rw [value_exponentiateGenerator, value_identity]
    exact pow_zero _
  · rw [value_multiply, value_exponentiateGenerator, value_exponentiateGenerator,
      value_exponentiateGenerator, ← pow_add]
    exact (pow_val_scalar _).symm
  · unfold exponentiate
    rw [value_power, value_exponentiateGenerator, value_exponentiateGenerator, ← pow_mul]
    exact (pow_val_scalar _).symm

/-- The residues modulo 563, of order 281: the smallest such group that admits challenges. -/
def order281 : Residues :=
  ⟨281, 9, by decide, by decide, by decide, by decide, by decide⟩

theorem primeOrder_order281 : order281.group.PrimeOrder :=
  primeOrder (show Nat.Prime 563 by norm_num) (show Nat.Prime 281 by norm_num)

end TwoParty.Residues
