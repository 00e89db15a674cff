/-
The coordinate field of the curve: the modulus is prime, the operations are those of `ZMod`, a root
is found wherever there is one, and of the two roots of an element one is even and one is odd.
-/
import TwoParty.Group.Curve
import TwoParty.Proofs.Group.Primality
import Mathlib.FieldTheory.Finite.Basic
import Mathlib.Tactic

namespace TwoParty.Curve

/-! ## The modulus -/

theorem prime_prime : prime.Prime := by
  have h1 : Nat.Prime 13331831 :=
    prime_of_lucas 13 [2, 5, 971, 1373] [] (by norm_num) (by simp) (by decide +kernel)
  have h2 : Nat.Prime 173378833005251801 :=
    prime_of_lucas 6 [2, 2, 2, 5, 5, 2621, 24809] [13331831] (by norm_num) (by simpa using h1)
      (by decide +kernel)
  have h3 : Nat.Prime 22149492674086928081353 :=
    prime_of_lucas 5 [2, 2, 2, 3, 5323] [173378833005251801] (by norm_num) (by simpa using h2)
      (by decide +kernel)
  have h4 : Nat.Prime 132896956044521568488119 :=
    prime_of_lucas 6 [2, 3] [22149492674086928081353] (by norm_num) (by simpa using h3)
      (by decide +kernel)
  have h5 : Nat.Prime 107590001 :=
    prime_of_lucas 3 [2, 2, 2, 2, 5, 5, 5, 5, 7, 29, 53] [] (by norm_num) (by simp)
      (by decide +kernel)
  have h6 : Nat.Prime 255515944373312847190720520512484175977 :=
    prime_of_lucas 3 [2, 2, 2, 7, 7, 11, 1627, 2657, 4423, 41201, 96557, 7240687] [107590001]
      (by norm_num) (by simpa using h5) (by decide +kernel)
  have h7 : Nat.Prime 205115282021455665897114700593932402728804164701536103180137503955397371 :=
    prime_of_lucas 10 [2, 3, 5, 29, 29, 31, 7723]
      [132896956044521568488119, 255515944373312847190720520512484175977] (by norm_num)
      (by simpa using ⟨h4, h6⟩) (by decide +kernel)
  exact prime_of_lucas 3 [2, 3, 7, 13441]
    [205115282021455665897114700593932402728804164701536103180137503955397371] (by norm_num)
    (by simpa using h7) (by decide +kernel)

instance : Fact prime.Prime := ⟨prime_prime⟩

/-! ## Operations -/

/-- A coordinate as an element of the field. -/
def value (a : Coordinate) : ZMod prime := (a.val : ZMod prime)

/-- The coordinate of an element of the field. -/
def ofValue (x : ZMod prime) : Coordinate := ⟨x.val, ZMod.val_lt x⟩

@[simp] theorem value_ofValue (x : ZMod prime) : value (ofValue x) = x :=
  ZMod.natCast_zmod_val x

@[simp] theorem ofValue_value (a : Coordinate) : ofValue (value a) = a :=
  Fin.ext (ZMod.val_natCast_of_lt a.isLt)

theorem value_injective : Function.Injective value :=
  Function.LeftInverse.injective ofValue_value

@[simp] theorem value_inj {a b : Coordinate} : value a = value b ↔ a = b :=
  value_injective.eq_iff

@[simp] theorem value_coordinate (n : Nat) : value (coordinate n) = n :=
  ZMod.natCast_mod n prime

@[simp] theorem value_add (a b : Coordinate) : value (add a b) = value a + value b := by
  unfold add
  rw [value_coordinate, Nat.cast_add]
  rfl

@[simp] theorem value_sub (a b : Coordinate) : value (sub a b) = value a - value b := by
  unfold sub
  rw [value_coordinate, Nat.cast_add, Nat.cast_sub b.isLt.le, ZMod.natCast_self, zero_sub,
    ← sub_eq_add_neg]
  rfl

@[simp] theorem value_mul (a b : Coordinate) : value (mul a b) = value a * value b := by
  unfold mul
  rw [value_coordinate, Nat.cast_mul]
  rfl

@[simp] theorem value_scale (n : Nat) (a : Coordinate) : value (scale n a) = n * value a := by
  unfold scale
  rw [value_coordinate, Nat.cast_mul]
  rfl

@[simp] theorem value_pow (a : Coordinate) (e : Nat) : value (pow a e) = value a ^ e :=
  map_powerBy (by rw [value_coordinate, Nat.cast_one]) value_mul a e

@[simp] theorem value_inverse (a : Coordinate) : value (inverse a) = (value a)⁻¹ := by
  unfold inverse
  rw [value_pow]
  by_cases h : value a = 0
  · rw [h, inv_zero, zero_pow (by decide)]
  · apply eq_inv_of_mul_eq_one_left
    rw [← pow_succ]
    exact ZMod.pow_card_sub_one_eq_one h

@[simp] theorem value_cubic (x : Coordinate) : value (cubic x) = value x ^ 3 + 7 := by
  unfold cubic
  rw [value_add, value_mul, value_mul, value_coordinate]
  push_cast
  ring

/-! ## The cubic -/

theorem cast_ne_zero {n : Nat} (hpos : 0 < n) (hlt : n < prime) : (n : ZMod prime) ≠ 0 := by
  rw [ne_eq, ZMod.natCast_eq_zero_iff]
  exact Nat.not_dvd_of_pos_of_lt hpos hlt

theorem two_ne_zero : (2 : ZMod prime) ≠ 0 :=
  Nat.cast_ofNat (R := ZMod prime) (n := 2) ▸ cast_ne_zero (by norm_num) (by decide)

/-- Minus seven is not a cube, so the curve does not meet the axis. -/
theorem cube_ne_neg_seven (x : ZMod prime) : x ^ 3 ≠ -7 := by
  intro hx
  have hx0 : x ≠ 0 := by
    rintro rfl
    have h7 : (7 : ZMod prime) = 0 := by linear_combination hx
    exact cast_ne_zero (n := 7) (by norm_num) (by decide) (by exact_mod_cast h7)
  have hcube : pow (sub (coordinate 0) (coordinate 7)) ((prime - 1) / 3) ≠ coordinate 1 := by
    decide +kernel
  apply hcube
  apply value_injective
  have hexp : 3 * ((prime - 1) / 3) = prime - 1 := by decide
  rw [value_pow, value_sub, value_coordinate, value_coordinate, value_coordinate, Nat.cast_zero,
    zero_sub, Nat.cast_ofNat, ← hx, ← pow_mul, hexp, ZMod.pow_card_sub_one_eq_one hx0,
    Nat.cast_one]

/-! ## Roots -/

/-- The power that is tried is a root of every square. -/
theorem sqrt?_mul_self (y : Coordinate) :
    ∃ root, sqrt? (mul y y) = some root ∧ mul root root = mul y y := by
  have hroot : mul (pow (mul y y) ((prime + 1) / 4)) (pow (mul y y) ((prime + 1) / 4)) =
      mul y y := by
    apply value_injective
    -- the modulus is three modulo four
    have hexp : 2 * ((prime + 1) / 4 * 2) = prime + 1 := by decide
    rw [value_mul, value_pow, value_mul, ← pow_two, ← pow_two, ← pow_mul, ← pow_mul, hexp, pow_succ,
      ZMod.pow_card, pow_two]
  exact ⟨_, if_pos hroot, hroot⟩

theorem value_eq_or_eq_neg {y root : Coordinate} (h : mul root root = mul y y) :
    value root = value y ∨ value root = -value y := by
  rw [← mul_self_eq_mul_self_iff, ← value_mul, ← value_mul, h]

/-- Opposite coordinates are zero or of different parities, as the modulus is odd. -/
theorem eq_of_value_eq_neg {y y' : Coordinate} (h : value y = -value y')
    (hparity : y.val % 2 = y'.val % 2) : y = y' := by
  have hdvd : prime ∣ y.val + y'.val := by
    rw [← ZMod.natCast_eq_zero_iff, Nat.cast_add]
    exact add_eq_zero_iff_eq_neg.2 h
  -- the sum is below twice the modulus, so it is zero or the modulus, which is odd
  obtain ⟨k, hk⟩ := hdvd
  have hy := y.isLt
  have hy' := y'.isLt
  have hodd : prime % 2 = 1 := by decide
  have hk2 : k < 2 := by
    by_contra hge
    have := Nat.mul_le_mul_left prime (not_lt.1 hge)
    omega
  apply Fin.ext
  interval_cases k
  · omega
  · omega

/-- The opposite of a coordinate other than zero has the other parity. -/
theorem parity_neg {y : Coordinate} (hy : value y ≠ 0) :
    (sub (coordinate 0) y).val % 2 ≠ y.val % 2 := by
  intro hparity
  have hneg : value (sub (coordinate 0) y) = -value y := by
    rw [value_sub, value_coordinate, Nat.cast_zero, zero_sub]
  rw [eq_of_value_eq_neg hneg hparity] at hneg
  exact mul_ne_zero two_ne_zero hy (by linear_combination hneg)

/-- Roots of the same parity are equal. -/
theorem eq_of_mul_self_eq {y y' : Coordinate} (h : mul y y = mul y' y')
    (hparity : y.val % 2 = y'.val % 2) : y = y' := by
  rcases value_eq_or_eq_neg h with heq | heq
  · exact value_injective heq
  · exact eq_of_value_eq_neg heq hparity

end TwoParty.Curve
