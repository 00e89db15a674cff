/-
The points of the curve are those of the elliptic curve `y^2 = x^3 + 7` over the field, whose group
law is that of chords and tangents. Jacobian coordinates represent such points, doubling and mixed
addition compute the law without division, and so sums and multiples of points are those of the
group.
-/
import TwoParty.Proofs.Group.Curve.Field
import Mathlib.AlgebraicGeometry.EllipticCurve.Affine.Point

namespace TwoParty.Curve

open WeierstrassCurve

/-! ## Rational points -/

/-- The elliptic curve. -/
def weierstrass : Affine (ZMod prime) := ⟨0, 0, 0, 0, 7⟩

/-- Its points, which form a group. -/
abbrev RationalPoint : Type := weierstrass.Point

theorem nonsingular_iff (x y : ZMod prime) : weierstrass.Nonsingular x y ↔ y ^ 2 = x ^ 3 + 7 := by
  have hΔ : weierstrass.Δ ≠ 0 := by
    have : weierstrass.Δ = ((-21168 : ℤ) : ZMod prime) := by
      simp only [WeierstrassCurve.Δ, b₂, b₄, b₆, b₈, weierstrass]
      norm_num
    rw [this, ne_eq, ZMod.intCast_zmod_eq_zero_iff_dvd]
    decide
  rw [← Affine.equation_iff_nonsingular_of_Δ_ne_zero hΔ, Affine.equation_iff]
  simp only [weierstrass]
  ring_nf

/-- The point with the coordinates of a rational point. -/
def Point.ofRational : RationalPoint → Point
  | .zero => infinity
  | .some x y _ => affine (ofValue x) (ofValue y)

namespace Point

theorem ofRational_injective : Function.Injective ofRational := by
  rintro (_ | ⟨x, y, h⟩) (_ | ⟨x', y', h'⟩) heq
  · rfl
  · cases heq
  · cases heq
  · obtain ⟨hx, hy⟩ := affine.inj heq
    have hx := congrArg value hx
    have hy := congrArg value hy
    simp only [value_ofValue] at hx hy
    subst hx hy
    rfl

/-- The points that satisfy the equation are the rational ones. -/
theorem onCurve_iff (P : Point) : P.onCurve = true ↔ ∃ Q, ofRational Q = P := by
  constructor
  · intro h
    cases P with
    | infinity => exact ⟨0, rfl⟩
    | affine x y =>
      have hxy : value y ^ 2 = value x ^ 3 + 7 := by
        have : mul y y = cubic x := of_decide_eq_true h
        rw [← value_cubic, ← this, value_mul, pow_two]
      refine ⟨.some _ _ ((nonsingular_iff _ _).2 hxy), ?_⟩
      rw [ofRational, ofValue_value, ofValue_value]
  · rintro ⟨_ | ⟨x, y, h⟩, rfl⟩
    · rfl
    · apply decide_eq_true
      apply value_injective
      rw [value_mul, value_cubic, value_ofValue, value_ofValue, ← pow_two]
      exact (nonsingular_iff x y).1 h

end Point

/-! ## The group law -/

@[simp] theorem negY_eq (x y : ZMod prime) : weierstrass.negY x y = -y := by
  simp [Affine.negY, weierstrass]

/-- The slope of a tangent. -/
theorem two_mul_mul_slope {y : ZMod prime} (hy : y ≠ 0) (x : ZMod prime) :
    2 * y * weierstrass.slope x x y y = 3 * x ^ 2 := by
  have h2y : 2 * y ≠ 0 := mul_ne_zero two_ne_zero hy
  have hne : y ≠ weierstrass.negY x y := by
    rw [negY_eq]
    intro h
    exact h2y (by linear_combination h)
  have hden : y - weierstrass.negY x y = 2 * y := by rw [negY_eq]; ring
  have hnum : 3 * x ^ 2 + 2 * weierstrass.a₂ * x + weierstrass.a₄ - weierstrass.a₁ * y =
      3 * x ^ 2 := by
    simp [weierstrass]
  rw [Affine.slope_of_Y_ne rfl hne, hden, hnum, mul_div_cancel₀ _ h2y]

/-- The slope of a chord. -/
theorem slope_mul_sub {x x' : ZMod prime} (hx : x ≠ x') (y y' : ZMod prime) :
    weierstrass.slope x x' y y' * (x - x') = y - y' := by
  rw [Affine.slope_of_X_ne hx, div_mul_cancel₀ _ (sub_ne_zero.2 hx)]

/-- The sum of two points that are not opposite, by the slope of their line. -/
theorem some_add_some {x y x' y' l : ZMod prime} (h : weierstrass.Nonsingular x y)
    (h' : weierstrass.Nonsingular x' y') (hne : ¬ (x = x' ∧ y = -y'))
    (hl : weierstrass.slope x x' y y' = l) :
    ∃ h'', (.some x y h + .some x' y' h' : RationalPoint) =
      .some (l ^ 2 - x - x') (l * (2 * x + x' - l ^ 2) - y) h'' := by
  subst hl
  have hx : weierstrass.addX x x' (weierstrass.slope x x' y y') =
      weierstrass.slope x x' y y' ^ 2 - x - x' := by
    simp [Affine.addX, weierstrass]
  have hy : weierstrass.addY x x' y (weierstrass.slope x x' y y') =
      weierstrass.slope x x' y y' * (2 * x + x' - weierstrass.slope x x' y y' ^ 2) - y := by
    rw [Affine.addY, negY_eq, Affine.negAddY, hx]
    ring
  have hadd : (.some x y h + .some x' y' h' : RationalPoint) = .some _ _ _ :=
    Affine.Point.add_some (by rwa [negY_eq])
  simp only [hx, hy] at hadd
  exact ⟨_, hadd⟩

/-- Points with the same first coordinate and another second one are opposite. -/
theorem some_add_some_eq_zero {x y y' : ZMod prime} {h : weierstrass.Nonsingular x y}
    {h' : weierstrass.Nonsingular x y'} (hne : y ≠ y') :
    (.some x y h + .some x y' h' : RationalPoint) = 0 := by
  have hsq : y * y = y' * y' := by
    rw [← pow_two, ← pow_two, (nonsingular_iff x y).1 h, (nonsingular_iff x y').1 h']
  apply Affine.Point.add_of_Y_eq rfl
  rw [negY_eq]
  exact (mul_self_eq_mul_self_iff.1 hsq).resolve_left hne

/-! ## Jacobian coordinates -/

namespace Jacobian

/-- The coordinates stand for the point. -/
def Represents (P : Jacobian) : RationalPoint → Prop
  | .zero => value P.z = 0
  | .some x y _ =>
    value P.z ≠ 0 ∧ value P.x = x * value P.z ^ 2 ∧ value P.y = y * value P.z ^ 3

theorem represents_infinity : infinity.Represents 0 := by
  show value (coordinate 0) = 0
  rw [value_coordinate, Nat.cast_zero]

theorem Represents.double {P : Jacobian} {Q : RationalPoint} (hP : P.Represents Q) :
    P.double.Represents (Q + Q) := by
  have hz3 : value P.double.z = 2 * value P.y * value P.z := by
    simp only [Jacobian.double, value_scale, value_mul, Nat.cast_ofNat, mul_assoc]
  rcases Q with _ | ⟨x, y, h⟩
  · have hz : value P.z = 0 := hP
    show value P.double.z = 0
    rw [hz3, hz, mul_zero]
  · obtain ⟨hz, hx, hy⟩ := hP
    by_cases hy0 : y = 0
    · -- a point of order two
      rw [Affine.Point.add_self_of_Y_eq (by rw [negY_eq, hy0, neg_zero])]
      show value P.double.z = 0
      rw [hz3, hy, hy0]
      ring
    · have h2y : 2 * y ≠ 0 := mul_ne_zero two_ne_zero hy0
      have hslope := two_mul_mul_slope hy0 x
      obtain ⟨l, hl⟩ : ∃ l, weierstrass.slope x x y y = l := ⟨_, rfl⟩
      rw [hl] at hslope
      obtain ⟨h'', hsum⟩ :=
        some_add_some h h (fun heq => h2y (by linear_combination heq.2)) hl
      rw [hsum]
      -- with `3 * x ^ 2 = 2 * y * l` the formulas are those of the tangent
      have hx3 : value P.double.x = (l ^ 2 - x - x) * value P.double.z ^ 2 := by
        simp only [Jacobian.double, value_scale, value_mul, value_sub, hx, hy, Nat.cast_ofNat]
        linear_combination (-(value P.z ^ 8 * (2 * y * l + 3 * x ^ 2))) * hslope
      have hy3 : value P.double.y = 3 * value P.x ^ 2 *
          (4 * value P.x * value P.y ^ 2 - value P.double.x) - 8 * value P.y ^ 4 := by
        simp only [Jacobian.double, value_scale, value_mul, value_sub, Nat.cast_ofNat]
        ring
      refine ⟨?_, hx3, ?_⟩
      · rw [hz3, hy]
        exact mul_ne_zero (by rw [← mul_assoc]; exact mul_ne_zero h2y (pow_ne_zero 3 hz)) hz
      · rw [hy3, hx3, hz3, hx, hy]
        linear_combination (-(4 * y ^ 2 * value P.z ^ 12 * (3 * x - l ^ 2))) * hslope

theorem value_eq_zero_iff (a : Coordinate) : value a = 0 ↔ a = coordinate 0 := by
  rw [← value_inj, value_coordinate, Nat.cast_zero]

theorem Represents.addAffine {P : Jacobian} {Q : RationalPoint} (hP : P.Represents Q)
    {x y : Coordinate} (h : weierstrass.Nonsingular (value x) (value y)) :
    (P.addAffine x y).Represents (Q + .some (value x) (value y) h) := by
  rcases Q with _ | ⟨a, b, hab⟩
  · have hz : P.z = coordinate 0 := (value_eq_zero_iff _).1 hP
    unfold Jacobian.addAffine
    rw [if_pos hz]
    rw [← Affine.Point.zero_def, zero_add]
    exact ⟨by simp, by simp, by simp⟩
  · have hdouble := hP.double
    obtain ⟨hz, hx, hy⟩ := hP
    have hd : value (sub (mul x (mul P.z P.z)) P.x) = (value x - a) * value P.z ^ 2 := by
      rw [value_sub, value_mul, value_mul, hx]
      ring
    have hr : value (sub (mul y (mul (mul P.z P.z) P.z)) P.y) = (value y - b) * value P.z ^ 3 := by
      rw [value_sub, value_mul, value_mul, value_mul, hy]
      ring
    unfold Jacobian.addAffine
    rw [if_neg (fun h0 => hz ((value_eq_zero_iff _).2 h0))]
    simp only
    generalize sub (mul x (mul P.z P.z)) P.x = d at hd ⊢
    generalize sub (mul y (mul (mul P.z P.z) P.z)) P.y = r at hr ⊢
    have hd0 : d = coordinate 0 ↔ value x = a := by
      rw [← value_eq_zero_iff, hd, mul_eq_zero, or_iff_left (pow_ne_zero 2 hz), sub_eq_zero]
    have hr0 : r = coordinate 0 ↔ value y = b := by
      rw [← value_eq_zero_iff, hr, mul_eq_zero, or_iff_left (pow_ne_zero 3 hz), sub_eq_zero]
    by_cases hxa : value x = a
    · rw [if_pos (hd0.2 hxa)]
      subst hxa
      -- no chord: the point itself or its opposite
      by_cases hyb : value y = b
      · subst hyb
        rw [if_pos (hr0.2 rfl)]
        exact hdouble
      · rw [if_neg (fun h0 => hyb (hr0.1 h0)), some_add_some_eq_zero (Ne.symm hyb)]
        exact represents_infinity
    · rw [if_neg (fun h0 => hxa (hd0.1 h0))]
      -- the slope of the chord is `r / (z * d)`
      have hslope := slope_mul_sub (Ne.symm hxa) b (value y)
      obtain ⟨l, hl⟩ : ∃ l, weierstrass.slope a (value x) b (value y) = l := ⟨_, rfl⟩
      rw [hl] at hslope
      obtain ⟨h'', hsum⟩ := some_add_some hab h (fun heq => hxa heq.1.symm) hl
      rw [hsum]
      have hr' : value r = l * (value P.z * value d) := by
        rw [hr, hd]
        linear_combination value P.z ^ 3 * hslope
      refine ⟨?_, ?_, ?_⟩
      · rw [value_mul, hd]
        exact mul_ne_zero hz (mul_ne_zero (sub_ne_zero.2 hxa) (pow_ne_zero 2 hz))
      · simp only [value_sub, value_mul, value_scale, hr', hx, Nat.cast_ofNat]
        linear_combination (-(value d ^ 2)) * hd
      · simp only [value_sub, value_mul, value_scale, hr', hx, hy, Nat.cast_ofNat]
        linear_combination (l * value P.z * value d ^ 3) * hd

/-- The binary method computes multiples. -/
theorem represents_multiple {x y : Coordinate} (h : weierstrass.Nonsingular (value x) (value y))
    {bits n : Nat} (hn : n < 2 ^ bits) :
    (multiple x y bits n).Represents (n • .some (value x) (value y) h) := by
  induction bits generalizing n with
  | zero =>
    have : n = 0 := by simpa using hn
    subst this
    rw [zero_nsmul]
    exact represents_infinity
  | succ bits ih =>
    have hhalf : n / 2 < 2 ^ bits := by rw [pow_succ] at hn; omega
    have htwice := (ih hhalf).double
    rw [← add_smul] at htwice
    simp only [multiple]
    split
    · have hsum := htwice.addAffine h
      rw [← succ_nsmul, show n / 2 + n / 2 + 1 = n by omega] at hsum
      exact hsum
    · rw [show n / 2 + n / 2 = n by omega] at htwice
      exact htwice

theorem Represents.toPoint {P : Jacobian} {Q : RationalPoint} (hP : P.Represents Q) :
    P.toPoint = .ofRational Q := by
  unfold Jacobian.toPoint
  rcases Q with _ | ⟨x, y, h⟩
  · rw [if_pos ((value_eq_zero_iff _).1 hP)]
    rfl
  · obtain ⟨hz, hx, hy⟩ := hP
    rw [if_neg (fun h0 => hz ((value_eq_zero_iff _).2 h0))]
    simp only [Point.ofRational, Point.affine.injEq, ← value_inj, value_mul, value_inverse,
      value_ofValue, hx, hy]
    constructor
    · field_simp
    · field_simp

end Jacobian

namespace Point

theorem sum_ofRational (Q R : RationalPoint) :
    sum (ofRational Q) (ofRational R) = ofRational (Q + R) := by
  rcases Q with _ | ⟨x, y, h⟩
  · rw [← Affine.Point.zero_def, zero_add]
    rfl
  · rcases R with _ | ⟨x', y', h'⟩
    · rw [← Affine.Point.zero_def, add_zero]
      rfl
    · have hrep : Jacobian.Represents ⟨ofValue x, ofValue y, coordinate 1⟩ (.some x y h) :=
        ⟨by simp, by simp, by simp⟩
      have hadd := hrep.addAffine (x := ofValue x') (y := ofValue y') (by simpa using h')
      simp only [value_ofValue] at hadd
      exact hadd.toPoint

theorem times_ofRational (Q : RationalPoint) (n : Nat) :
    times (ofRational Q) n = ofRational (n • Q) := by
  rcases Q with _ | ⟨x, y, h⟩
  · rw [← Affine.Point.zero_def, nsmul_zero]
    rfl
  · have hmul := Jacobian.represents_multiple (x := ofValue x) (y := ofValue y) (by simpa using h)
      (Nat.lt_log2_self (n := n))
    simp only [value_ofValue] at hmul
    exact hmul.toPoint

end Point

end TwoParty.Curve
