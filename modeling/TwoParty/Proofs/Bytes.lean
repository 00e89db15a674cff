/-
Integers in big-endian bytes: zero bytes in front do not count, so an integer has one written form
of each width that holds it, and the digits after the leading zeros are as many as it needs.
-/
import TwoParty.Bytes
import Mathlib.Tactic

namespace TwoParty.Bytes

/-! ## Digits -/

/-- The integer of which the bytes are the digits to the base 256, the most significant first. -/
def integer (bytes : Bytes) : Nat :=
  Nat.ofDigits 256 (bytes.reverse.map UInt8.toNat)

theorem littleEndian_eq_ofDigits (bytes : Bytes) :
    littleEndian bytes = Nat.ofDigits 256 (bytes.map UInt8.toNat) := by
  induction bytes with
  | nil => rfl
  | cons byte rest ih => rw [littleEndian, List.map_cons, Nat.ofDigits_cons, ih]

theorem bigEndian_eq_integer (bytes : Bytes) : bigEndian bytes = integer bytes := by
  unfold integer
  rw [← littleEndian_eq_ofDigits, ← bigEndian_reverse, List.reverse_reverse]

/-! ## Leading zeros -/

theorem bigEndian_append (a b : Bytes) :
    bigEndian (a ++ b) = bigEndian a * 256 ^ b.length + bigEndian b := by
  rw [← Nat.pow_eq, ← foldl_digit]
  exact List.foldl_append

theorem bigEndian_cons (byte : UInt8) (rest : Bytes) :
    bigEndian (byte :: rest) = byte.toNat * 256 ^ rest.length + bigEndian rest := by
  have h := bigEndian_append [byte] rest
  rw [List.singleton_append] at h
  rw [h, ← List.nil_append [byte], bigEndian_append_singleton]
  simp [bigEndian]

theorem bigEndian_significant (bytes : Bytes) : bigEndian bytes.significant = bigEndian bytes := by
  induction bytes with
  | nil => rfl
  | cons byte rest ih =>
    unfold significant at ih ⊢
    by_cases h : byte = 0
    · subst h
      rw [List.dropWhile_cons_of_pos (by simp), ih, bigEndian_cons]
      simp
    · rw [List.dropWhile_cons_of_neg (by simpa using h)]

/-- The digits of an integer below `256 ^ width` are at most `width`. -/
theorem length_significant_le_iff (bytes : Bytes) (width : Nat) :
    bytes.significant.length ≤ width ↔ bigEndian bytes < 256 ^ width := by
  rw [← bigEndian_significant]
  constructor
  · intro h
    have hlt := bigEndian_lt bytes.significant
    rw [Nat.pow_eq] at hlt
    exact lt_of_lt_of_le hlt (Nat.pow_le_pow_right (by norm_num) h)
  · intro h
    by_contra hlen
    push Not at hlen
    rcases hs : bytes.significant with _ | ⟨byte, rest⟩
    · simp [hs] at hlen
    · -- the first digit is not zero, so the integer is at least a power of the radix
      have hbyte : byte ≠ 0 := by
        have := List.head?_dropWhile_not (· == (0 : UInt8)) bytes
        rw [show bytes.dropWhile (· == (0 : UInt8)) = byte :: rest from hs] at this
        simpa using this
      have hpos : 1 ≤ byte.toNat := by
        by_contra h0
        exact hbyte (UInt8.toNat_inj.1 (by simpa using h0))
      rw [hs, bigEndian_cons] at h
      rw [hs, List.length_cons] at hlen
      have hw : 256 ^ width ≤ 256 ^ rest.length := Nat.pow_le_pow_right (by norm_num) (by omega)
      have hd : 256 ^ rest.length ≤ byte.toNat * 256 ^ rest.length := Nat.le_mul_of_pos_left _ hpos
      omega

/-- After the leading zeros there are as many bytes as the integer has digits. -/
theorem length_significant (bytes : Bytes) :
    bytes.significant.length = (Nat.digits 256 (bigEndian bytes)).length :=
  eq_of_forall_ge_iff fun width =>
    (length_significant_le_iff bytes width).trans (Nat.digits_length_le_iff (by norm_num) _).symm

/-- If not all bytes in front are zero, then the leading zeros are all among them. -/
theorem length_sub_leading {bytes : Bytes} {n : Nat} (h : (bytes.take n).all (· == 0) = false) :
    bytes.length - ((bytes.take n).takeWhile (· == 0)).length = bytes.significant.length := by
  have hlead : bytes.takeWhile (· == 0) = (bytes.take n).takeWhile (· == 0) := by
    conv_lhs => rw [← List.take_append_drop n bytes]
    rw [List.takeWhile_append, if_neg]
    intro hlen
    -- otherwise all bytes in front were taken
    have hall := List.all_takeWhile (p := (· == (0 : UInt8))) (l := bytes.take n)
    rw [(List.takeWhile_prefix _).eq_of_length hlen, h] at hall
    cases hall
  have hsplit := congrArg List.length
    (List.takeWhile_append_dropWhile (p := (· == (0 : UInt8))) (l := bytes))
  rw [List.length_append, hlead] at hsplit
  unfold significant
  omega

/-! ## Fixed width -/

theorem bigEndian_injective {a b : Bytes} (hlen : a.length = b.length)
    (h : bigEndian a = bigEndian b) : a = b := by
  rw [← toBigEndian_bigEndian a, ← toBigEndian_bigEndian b, hlen, h]

/-- The written form of an integer is told by its width and the integer. -/
theorem eq_toBigEndian_iff {bytes : Bytes} {width n : Nat} (hn : n < 256 ^ width) :
    bytes = toBigEndian width n ↔ bytes.length = width ∧ bytes.integer = n := by
  rw [← bigEndian_eq_integer]
  constructor
  · rintro rfl
    exact ⟨length_toBigEndian width n, bigEndian_toBigEndian (by rwa [Nat.pow_eq])⟩
  · rintro ⟨rfl, rfl⟩
    exact (toBigEndian_bigEndian bytes).symm

/-- The wider written form has zero bytes in front of the narrower one. -/
theorem toBigEndian_eq_replicate_append {width n : Nat} {bytes : Bytes}
    (hlen : bytes.length ≤ width) (hn : bigEndian bytes = n) :
    toBigEndian width n = List.replicate (width - bytes.length) 0 ++ bytes := by
  have hlt : n < 256 ^ width := by
    have := bigEndian_lt bytes
    rw [Nat.pow_eq, hn] at this
    exact lt_of_lt_of_le this (Nat.pow_le_pow_right (by norm_num) hlen)
  -- both are as wide and write the same integer
  apply bigEndian_injective
  · simp; omega
  · rw [bigEndian_toBigEndian (by rw [Nat.pow_eq]; exact hlt), bigEndian_replicate_zero_append, hn]

theorem length_xor (data mask : Bytes) : (data.xor mask).length = data.length := by
  fun_induction xor data mask with
  | case1 mask => rfl
  | case2 data => rfl
  | case3 byte data m mask ih => rw [List.length_cons, ih, List.length_cons]

/-- Masking twice with the same mask gives the data back. -/
theorem xor_xor_cancel (data mask : Bytes) : (data.xor mask).xor mask = data := by
  fun_induction xor data mask with
  | case1 mask => rfl
  | case2 data => cases data <;> rfl
  | case3 byte data m mask ih =>
    rw [xor, ih, UInt8.xor_assoc, UInt8.xor_self, UInt8.xor_zero]

end TwoParty.Bytes
