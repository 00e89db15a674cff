/-
The points of the curve form a group of prime order. The base point has the order `order`, which
divides the number of points; there are fewer than three times as many, as a point is told by a
coordinate and a parity, and not twice as many, as no point has order two.
-/
import TwoParty.Proofs.Group.Curve.Encoding
import TwoParty.Proofs.Group.Curve.Points
import TwoParty.Proofs.Group.PrimeOrder

namespace TwoParty.Curve

open CyclicGroup WeierstrassCurve

theorem order_prime : order.Prime := by
  have h1 : Nat.Prime 107361793816595537 :=
    prime_of_lucas 3 [2, 2, 2, 2, 16699, 85831, 4681609] [] (by norm_num) (by simp)
      (by decide +kernel)
  have h2 : Nat.Prime 44706919 :=
    prime_of_lucas 6 [2, 3, 797, 9349] [] (by norm_num) (by simp) (by decide +kernel)
  have h3 : Nat.Prime 174723607534414371449 :=
    prime_of_lucas 3 [2, 2, 2, 17, 59, 4051, 120233] [44706919] (by norm_num) (by simpa using h2)
      (by decide +kernel)
  have h4 : Nat.Prime 297159362677 :=
    prime_of_lucas 2 [2, 2, 3, 3, 11, 461, 1627771] [] (by norm_num) (by simp) (by decide +kernel)
  have h5 : Nat.Prime 545358713 :=
    prime_of_lucas 5 [2, 2, 2, 41, 59, 28181] [] (by norm_num) (by simp) (by decide +kernel)
  have h6 : Nat.Prime 29047611873442575647497758179 :=
    prime_of_lucas 2 [2, 293, 305873] [545358713, 297159362677] (by norm_num)
      (by simpa using ⟨h5, h4⟩) (by decide +kernel)
  have h7 : Nat.Prime 341948486974166000522343609283189 :=
    prime_of_lucas 2 [2, 2, 3, 3, 3, 109] [29047611873442575647497758179] (by norm_num)
      (by simpa using h6) (by decide +kernel)
  exact prime_of_lucas 7 [2, 2, 2, 2, 2, 2, 3, 149, 631]
    [107361793816595537, 174723607534414371449, 341948486974166000522343609283189] (by norm_num)
    (by simpa using ⟨h1, h3, h7⟩) (by decide +kernel)

/-! ## The number of points -/

/-- A point by its first coordinate and the parity of its second one. -/
def Point.compressed : Point → Option (Coordinate × Bool)
  | infinity => none
  | affine x y => some (x, decide (y.val % 2 = 1))

theorem compressed_injective :
    Function.Injective fun Q : RationalPoint => (Point.ofRational Q).compressed := by
  intro Q R h
  apply Point.ofRational_injective
  have hQ := (Point.onCurve_iff _).2 ⟨Q, rfl⟩
  have hR := (Point.onCurve_iff _).2 ⟨R, rfl⟩
  simp only at h
  generalize Point.ofRational Q = P at *
  generalize Point.ofRational R = P' at *
  rcases P with _ | ⟨x, y⟩ <;> rcases P' with _ | ⟨x', y'⟩
  · rfl
  · cases h
  · cases h
  · simp only [Point.compressed, Option.some.injEq, Prod.mk.injEq] at h
    have hlift := (Point.lift?_eq hQ).symm.trans (congrArg₂ Point.lift? h.1 h.2)
    rw [Point.lift?_eq hR] at hlift
    exact Option.some.inj hlift

instance : Finite RationalPoint :=
  Finite.of_injective _ compressed_injective

theorem card_le : Nat.card RationalPoint ≤ 2 * prime + 1 := by
  have h := Nat.card_le_card_of_injective _ compressed_injective
  rw [Finite.card_option, Nat.card_prod] at h
  simp only [Nat.card_eq_fintype_card, Fintype.card_fin, Fintype.card_bool] at h
  omega

/-- No point has order two, as none is on the axis. -/
theorem eq_zero_of_add_self {Q : RationalPoint} (h : Q + Q = 0) : Q = 0 := by
  rcases Q with _ | ⟨x, y, hxy⟩
  · rfl
  · exfalso
    by_cases hy : y = 0
    · have hcubic := (nonsingular_iff x y).1 hxy
      rw [hy] at hcubic
      exact cube_ne_neg_seven x (by linear_combination -hcubic)
    · have hne : ¬ (x = x ∧ y = -y) := by
        rintro ⟨-, heq⟩
        exact mul_ne_zero two_ne_zero hy (by linear_combination heq)
      obtain ⟨h'', hsum⟩ := some_add_some hxy hxy hne rfl
      rw [hsum] at h
      cases h

/-! ## The base point -/

theorem exists_base : ∃ B, Point.ofRational B = Point.base :=
  (Point.onCurve_iff _).1 (by decide +kernel)

variable {B : RationalPoint} (hB : Point.ofRational B = Point.base)
include hB

theorem addOrderOf_base : addOrderOf B = order := by
  have : Fact order.Prime := ⟨order_prime⟩
  apply addOrderOf_eq_prime
  · apply Point.ofRational_injective
    rw [← Point.times_ofRational, hB]
    decide +kernel
  · rintro rfl
    cases hB

/-- There are as many points as the order says. -/
theorem card_eq : Nat.card RationalPoint = order := by
  have hdvd := addOrderOf_dvd_natCard B
  rw [addOrderOf_base hB] at hdvd
  obtain ⟨k, hk⟩ := hdvd
  have hpos : 0 < Nat.card RationalPoint := Nat.card_pos
  have hle := card_le
  have hbound : 2 * prime + 1 < 3 * order := by decide
  have hk3 : k < 3 := by
    by_contra hge
    have := Nat.mul_le_mul_left order (not_lt.1 hge)
    omega
  have hk2 : k ≠ 2 := by
    rintro rfl
    have : Fact (Nat.Prime 2) := ⟨Nat.prime_two⟩
    -- an even number of points leaves one of order two
    obtain ⟨Q, hQ⟩ := exists_prime_addOrderOf_dvd_card' 2 (G := RationalPoint)
      (by rw [hk]; exact Nat.dvd_mul_left 2 order)
    have htwo : Q + Q = 0 := by rw [← two_nsmul, ← hQ, addOrderOf_nsmul_eq_zero]
    rw [eq_zero_of_add_self htwo, addOrderOf_zero] at hQ
    exact absurd hQ (by norm_num)
  have hk0 : k ≠ 0 := by
    rintro rfl
    omega
  have : k = 1 := by omega
  rw [hk, this, mul_one]

theorem exists_nsmul_eq (Q : RationalPoint) : ∃ n, n < order ∧ n • B = Q := by
  have : Fact order.Prime := ⟨order_prime⟩
  have hne : B ≠ 0 := by
    rintro rfl
    cases hB
  have hmem : Q ∈ AddSubmonoid.multiples B := mem_multiples_of_prime_card (card_eq hB) hne
  obtain ⟨n, hn⟩ := hmem
  refine ⟨n % order, Nat.mod_lt n order_prime.pos, ?_⟩
  rw [← addOrderOf_base hB, mod_addOrderOf_nsmul]
  exact hn

theorem mod_order_nsmul (n : Nat) : (n % order) • B = n • B := by
  rw [← addOrderOf_base hB, mod_addOrderOf_nsmul]

theorem exponentiateGenerator_eq (e : Curve.group.Scalar) :
    Curve.group.exponentiateGenerator e = Point.ofRational (e.val • B) := by
  rw [← Point.times_ofRational, hB]
  rfl

omit hB in
theorem compact : Curve.group.Compact where
  length_encode_lt P := lt_of_le_of_lt (Point.length_encode_le P) (by norm_num)
  scalarWidth_lt := by decide

omit hB in
/-- The curve satisfies the laws of a group of prime order. -/
theorem primeOrder : Curve.group.PrimeOrder := by
  obtain ⟨B, hB⟩ := exists_base
  have hgen := exponentiateGenerator_eq hB
  refine {
    prime := order_prime
    isMember_iff := ?_
    logarithm_unique := ?_
    generator_eq := ?_
    identity_eq := (hgen _).trans (congrArg Point.ofRational (zero_nsmul B))
    multiply_eq := ?_
    exponentiate_eq := ?_
    decode?_encode := fun P => Point.decode?_encode
    length_encode_lt := fun P _ => compact.length_encode_lt P
    scalarWidth_lt := compact.scalarWidth_lt }
  · intro P
    refine (Point.onCurve_iff P).trans ⟨?_, ?_⟩
    · rintro ⟨Q, rfl⟩
      obtain ⟨n, hn, rfl⟩ := exists_nsmul_eq hB Q
      exact ⟨⟨n, hn⟩, hgen _⟩
    · rintro ⟨e, rfl⟩
      exact ⟨_, (hgen e).symm⟩
  · intro e f h
    rw [hgen, hgen] at h
    have heq := nsmul_inj_mod.1 (Point.ofRational_injective h)
    rw [addOrderOf_base hB] at heq
    exact Fin.ext ((Nat.mod_eq_of_lt e.isLt).symm.trans (heq.trans (Nat.mod_eq_of_lt f.isLt)))
  · rw [hgen]
    show Point.ofRational ((1 % order) • B) = Point.base
    rw [mod_order_nsmul hB, one_nsmul, hB]
  · intro e f
    rw [hgen, hgen, hgen]
    show Point.sum _ _ = Point.ofRational (((e.val + f.val) % order) • B)
    rw [Point.sum_ofRational, mod_order_nsmul hB, add_nsmul]
  · intro e f
    rw [hgen, hgen]
    show Point.times _ _ = Point.ofRational (((e.val * f.val) % order) • B)
    rw [Point.times_ofRational, mod_order_nsmul hB, mul_nsmul]

end TwoParty.Curve
