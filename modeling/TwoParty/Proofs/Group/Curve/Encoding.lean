/-
The written forms of the points: the first coordinate and the parity of the second one tell a point
of the curve from all others, so reading what was written gives it back. What is read is exactly
what the forms of SEC 1 write of the points of the curve.
-/
import TwoParty.Proofs.Group.Curve.Field

namespace TwoParty.Curve.Point

/-- The point with a first coordinate and a parity is found if there is one. -/
theorem lift?_eq {x y : Coordinate} (h : (affine x y).onCurve = true) :
    lift? x (decide (y.val % 2 = 1)) = some (affine x y) := by
  have hxy : mul y y = cubic x := of_decide_eq_true h
  obtain ⟨root, hsqrt, hroot⟩ := sqrt?_mul_self y
  rw [hxy] at hsqrt
  unfold lift?
  rw [hsqrt]
  simp only [bind, Option.bind, pure, Option.some.injEq, affine.injEq, true_and]
  split
  · rename_i hparity
    rw [decide_eq_decide] at hparity
    exact eq_of_mul_self_eq hroot (by omega)
  · rename_i hparity
    -- the root that was found has the other parity, so it is the opposite one
    rcases value_eq_or_eq_neg hroot with heq | heq
    · rw [value_injective heq] at hparity
      exact absurd rfl hparity
    · apply value_injective
      rw [value_sub, value_coordinate, Nat.cast_zero, zero_sub, heq, neg_neg]

theorem readCoordinate?_toBigEndian (x : Coordinate) :
    readCoordinate? (Bytes.toBigEndian 32 x.val) = some x := by
  have hx : (Bytes.toBigEndian 32 x.val).bigEndian = x.val :=
    Bytes.bigEndian_toBigEndian (lt_of_lt_of_le x.isLt (by decide))
  unfold readCoordinate?
  rw [dif_pos (by rw [hx]; exact x.isLt)]
  exact congrArg some (Fin.ext hx)

theorem decode?_encode {P : Point} (h : P.onCurve = true) : decode? (encode P) = some P := by
  rcases P with _ | ⟨x, y⟩
  · rfl
  · have hlen : (Bytes.toBigEndian 32 x.val).length = 32 := Bytes.length_toBigEndian _ _
    have hlift := lift?_eq h
    unfold encode decode?
    rcases Nat.mod_two_eq_zero_or_one y.val with hy | hy
    · simp only [hy, hlen, readCoordinate?_toBigEndian] at hlift ⊢
      exact hlift
    · simp only [hy, hlen, readCoordinate?_toBigEndian] at hlift ⊢
      exact hlift

/-! ## All written forms -/

theorem lift?_eq_some_iff {x : Coordinate} {odd : Bool} {P : Point} :
    lift? x odd = some P ↔
      ∃ y, P = affine x y ∧ (affine x y).onCurve = true ∧ decide (y.val % 2 = 1) = odd := by
  constructor
  · intro h
    unfold lift? sqrt? at h
    obtain ⟨root, hsqrt, h⟩ := Option.bind_eq_some_iff.1 h
    dsimp only at hsqrt
    split_ifs at hsqrt with hroot
    cases hsqrt
    generalize pow (cubic x) ((prime + 1) / 4) = root at h hroot
    -- the root is not zero, so it and its opposite have different parities
    have hne : value root ≠ 0 := by
      intro h0
      have hcubic := congrArg value hroot
      rw [value_mul, h0, mul_zero, value_cubic] at hcubic
      exact cube_ne_neg_seven (value x) (by linear_combination -hcubic)
    have hparity := parity_neg hne
    simp only [pure, Option.some.injEq] at h
    split_ifs at h with hodd
    · exact ⟨root, h.symm, decide_eq_true hroot, hodd⟩
    · refine ⟨_, h.symm, decide_eq_true ?_, ?_⟩
      · rw [← hroot]
        apply value_injective
        rw [value_mul, value_mul, value_sub, value_coordinate, Nat.cast_zero, zero_sub, neg_mul_neg]
      · cases odd with
        | false => simp only [decide_eq_false_iff_not] at hodd ⊢; omega
        | true => simp only [decide_eq_true_iff] at hodd ⊢; omega
  · rintro ⟨y, rfl, hy, rfl⟩
    exact lift?_eq hy

theorem readCoordinate?_eq_some_iff {bytes : Bytes} (hlen : bytes.length = 32) {x : Coordinate} :
    readCoordinate? bytes = some x ↔ bytes = Bytes.toBigEndian 32 x.val := by
  constructor
  · intro h
    unfold readCoordinate? at h
    split_ifs at h with hlt
    cases h
    rw [← hlen, Bytes.toBigEndian_bigEndian]
  · rintro rfl
    exact readCoordinate?_toBigEndian x

theorem exists_of_lift?_read {bytes : Bytes} (hlen : bytes.length = 32) {odd : Bool} {P : Point}
    (h : (readCoordinate? bytes).bind (lift? · odd) = some P) :
    ∃ x y, bytes = Bytes.toBigEndian 32 x.val ∧ P = affine x y ∧ (affine x y).onCurve = true ∧
      decide (y.val % 2 = 1) = odd := by
  obtain ⟨x, hx, hlift⟩ := Option.bind_eq_some_iff.1 h
  obtain ⟨y, hP⟩ := lift?_eq_some_iff.1 hlift
  exact ⟨x, y, (readCoordinate?_eq_some_iff hlen).1 hx, hP⟩

/-- The written forms of a point: compressed, with the parity of the second coordinate as the tag;
uncompressed, with both coordinates; and compact, of the points whose second coordinate is even. The
point at infinity has one form only. -/
inductive WrittenAs : Point → Bytes → Prop where
  | infinity : WrittenAs infinity [0]
  | compressed (x y : Coordinate) :
    WrittenAs (affine x y) (UInt8.ofNat (2 + y.val % 2) :: Bytes.toBigEndian 32 x.val)
  | uncompressed (x y : Coordinate) :
    WrittenAs (affine x y) (4 :: (Bytes.toBigEndian 32 x.val ++ Bytes.toBigEndian 32 y.val))
  | compact (x y : Coordinate) (heven : y.val % 2 = 0) :
    WrittenAs (affine x y) (5 :: Bytes.toBigEndian 32 x.val)

theorem writtenAs_of_decode? {bytes : Bytes} {P : Point} (h : decode? bytes = some P) :
    P.onCurve = true ∧ P.WrittenAs bytes := by
  rcases bytes with _ | ⟨tag, rest⟩
  · cases h
  · unfold decode? at h
    dsimp only at h
    split_ifs at h with h0 h2 h3 h5 h4
    · obtain ⟨rfl, hrest⟩ := h0
      cases h
      rw [List.length_eq_zero_iff.1 hrest]
      exact ⟨rfl, .infinity⟩
    · obtain ⟨rfl, hlen⟩ := h2
      obtain ⟨x, y, rfl, rfl, hy, hparity⟩ := exists_of_lift?_read hlen h
      have hform := WrittenAs.compressed x y
      rw [show y.val % 2 = 0 by simpa using hparity] at hform
      exact ⟨hy, hform⟩
    · obtain ⟨rfl, hlen⟩ := h3
      obtain ⟨x, y, rfl, rfl, hy, hparity⟩ := exists_of_lift?_read hlen h
      have hform := WrittenAs.compressed x y
      rw [of_decide_eq_true hparity] at hform
      exact ⟨hy, hform⟩
    · obtain ⟨rfl, hlen⟩ := h5
      obtain ⟨x, y, rfl, rfl, hy, hparity⟩ := exists_of_lift?_read hlen h
      exact ⟨hy, .compact x y (by simpa using hparity)⟩
    · obtain ⟨rfl, hlen⟩ := h4
      obtain ⟨x, hx, h⟩ := Option.bind_eq_some_iff.1 h
      obtain ⟨y, hy, h⟩ := Option.bind_eq_some_iff.1 h
      split_ifs at h with hcurve
      cases h
      have hform := WrittenAs.uncompressed x y
      rw [← (readCoordinate?_eq_some_iff (by simp [hlen])).1 hx,
        ← (readCoordinate?_eq_some_iff (by simp [hlen])).1 hy, List.take_append_drop] at hform
      exact ⟨hcurve, hform⟩

/-- The bytes that are read are the written forms of the points of the curve. -/
theorem decode?_eq_some_iff {bytes : Bytes} {P : Point} :
    decode? bytes = some P ↔ P.onCurve = true ∧ P.WrittenAs bytes := by
  refine ⟨writtenAs_of_decode?, ?_⟩
  have hlen (x : Coordinate) : (Bytes.toBigEndian 32 x.val).length = 32 :=
    Bytes.length_toBigEndian 32 x.val
  rintro ⟨hP, hwritten⟩
  cases hwritten with
  | infinity => rfl
  | compressed x y => exact decode?_encode hP
  | uncompressed x y =>
    unfold decode?
    simp [hlen, List.take_left', List.drop_left', readCoordinate?_toBigEndian, hP]
  | compact x y heven =>
    have hlift := lift?_eq hP
    unfold decode?
    simp only [hlen, readCoordinate?_toBigEndian, heven] at hlift ⊢
    exact hlift

theorem length_encode_le (P : Point) : (encode P).length ≤ 33 := by
  cases P with
  | infinity => simp [encode]
  | affine x y => simp [encode]

end TwoParty.Curve.Point
