/-
Whether a power of two is below an integer is read off the binary form of the integer, without
computing the power: an integer of `k + 1` significant bits is at least `2 ^ k`, and equals it only
if all its lower bits are zero.
-/
namespace TwoParty

/-- How many significant bits an integer has; zero has none. -/
def bitLength (n : Nat) : Nat :=
  if n = 0 then 0 else n.log2 + 1

/-- How many zeros the binary form of an integer ends with. -/
def trailingZeros (n : Nat) : Nat :=
  (List.range (bitLength n)).findIdx (n.testBit ·)

/-- Whether `2 ^ bits` is below the order. The successor is the one of 32-bit arithmetic. -/
def powerOfTwoBelow (order : Nat) (bits : UInt32) : Bool :=
  let next := (bits + 1).toNat
  next < bitLength order || (bitLength order = next && trailingZeros order ≠ bits.toNat)

theorem lt_bitLength {n k : Nat} : k < bitLength n ↔ Nat.pow 2 k ≤ n := by
  rw [Nat.pow_eq]
  unfold bitLength
  split
  · rename_i h
    have := Nat.two_pow_pos k
    omega
  · rename_i h
    rw [Nat.lt_succ_iff, Nat.le_log2 h]

theorem lt_two_pow {n k : Nat} (h : bitLength n ≤ k) : n < Nat.pow 2 k :=
  Nat.lt_of_not_le fun hle => absurd (lt_bitLength.2 hle) (Nat.not_lt.2 h)

theorem trailingZeros_two_pow (k : Nat) : trailingZeros (Nat.pow 2 k) = k := by
  have hlength : bitLength (Nat.pow 2 k) = k + 1 := by
    simp [bitLength, Nat.log2_two_pow]
  have hk : k < (List.range (bitLength (Nat.pow 2 k))).length := by
    rw [List.length_range, hlength]
    exact Nat.lt_succ_self k
  refine (List.findIdx_eq hk).2 ⟨?_, fun j hj => ?_⟩
  · simp
  · simp [Nat.ne_of_gt hj]

/-- Among the integers of `k + 1` bits, only the power of two ends with `k` zeros. -/
theorem trailingZeros_eq_iff {n k : Nat} (h : bitLength n = k + 1) :
    trailingZeros n = k ↔ n = Nat.pow 2 k := by
  constructor
  · intro hzeros
    have hk : k < (List.range (bitLength n)).length := by simp [h]
    have ⟨_, hlow⟩ := (List.findIdx_eq hk).1 hzeros
    rw [Nat.pow_eq]
    refine Nat.eq_of_testBit_eq fun i => ?_
    rw [Nat.testBit_two_pow]
    rcases Nat.lt_trichotomy i k with hi | rfl | hi
    · simpa [Nat.ne_of_gt hi] using hlow i hi
    · rw [Nat.testBit_of_two_pow_le_and_two_pow_add_one_gt (lt_bitLength.1 (by omega))
        (lt_two_pow (Nat.le_of_eq h))]
      simp
    · rw [Nat.testBit_lt_two_pow (lt_two_pow (by omega))]
      simp [Nat.ne_of_lt hi]
  · rintro rfl
    exact trailingZeros_two_pow k

/-- The comparison is right wherever the successor of the exponent does not overflow. -/
theorem powerOfTwoBelow_iff {order : Nat} {bits : UInt32}
    (h : (bits + 1).toNat = bits.toNat + 1) :
    powerOfTwoBelow order bits = true ↔ Nat.pow 2 bits.toNat < order := by
  simp only [powerOfTwoBelow, h, Bool.or_eq_true, Bool.and_eq_true, decide_eq_true_eq, ne_eq,
    decide_not, Bool.not_eq_true', decide_eq_false_iff_not]
  constructor
  · rintro (hlt | ⟨hlength, hzeros⟩)
    · have hle := lt_bitLength.1 hlt
      have hpos := Nat.two_pow_pos bits.toNat
      rw [Nat.pow_eq, Nat.pow_succ] at hle
      rw [Nat.pow_eq]
      omega
    · have hle := lt_bitLength.1 (show bits.toNat < bitLength order by omega)
      exact Nat.lt_of_le_of_ne hle fun heq => hzeros ((trailingZeros_eq_iff hlength).2 heq.symm)
  · intro hlt
    have hlength := lt_bitLength.2 (Nat.le_of_lt hlt)
    rcases Nat.lt_or_ge (bits.toNat + 1) (bitLength order) with hnext | hnext
    · exact .inl hnext
    · have hlength : bitLength order = bits.toNat + 1 := by omega
      refine .inr ⟨hlength, fun hzeros => ?_⟩
      exact Nat.lt_irrefl _ ((trailingZeros_eq_iff hlength).1 hzeros ▸ hlt)

/-- The largest exponent has no successor, and the comparison would be wrong there. -/
example : (0xffffffff + 1 : UInt32).toNat = 0 ∧ powerOfTwoBelow 1 0xffffffff = true := by decide

end TwoParty
