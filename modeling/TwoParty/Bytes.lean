/-
Byte strings: the integers they write in either byte order, their hexadecimal text, their
exclusive or, and their division into blocks. Writing an integer or a byte string and reading it
again gives it back.
-/
namespace TwoParty

abbrev Bytes := List UInt8

namespace Bytes

/-! ## Integers -/

/-- The integer written with the least significant byte first. -/
def littleEndian : Bytes → Nat
  | [] => 0
  | byte :: rest => byte.toNat + 256 * littleEndian rest

/-- The integer written with the most significant byte first. -/
def bigEndian (bytes : Bytes) : Nat :=
  bytes.foldl (fun n byte => 256 * n + byte.toNat) 0

/-- The low `width` bytes of an integer, the least significant first. -/
def toLittleEndian : (width : Nat) → (n : Nat) → Bytes
  | 0, _ => []
  | width + 1, n => UInt8.ofNat n :: toLittleEndian width (n / 256)

/-- The low `width` bytes of an integer, the most significant first. -/
def toBigEndian (width n : Nat) : Bytes :=
  (toLittleEndian width n).reverse

/-- The bytes of an integer without leading zero bytes; zero has none. -/
def significant (bytes : Bytes) : Bytes :=
  bytes.dropWhile (· == 0)

@[simp] theorem length_toLittleEndian (width n : Nat) :
    (toLittleEndian width n).length = width := by
  induction width generalizing n with
  | zero => rfl
  | succ width ih => simp [toLittleEndian, ih]

@[simp] theorem length_toBigEndian (width n : Nat) : (toBigEndian width n).length = width := by
  simp [toBigEndian]

theorem littleEndian_lt (bytes : Bytes) : littleEndian bytes < Nat.pow 256 bytes.length := by
  induction bytes with
  | nil => decide
  | cons byte rest ih =>
    have := byte.toNat_lt
    simp only [littleEndian, List.length_cons, Nat.pow_eq, Nat.pow_succ] at ih ⊢
    omega

theorem littleEndian_toLittleEndian {width n : Nat} (h : n < Nat.pow 256 width) :
    littleEndian (toLittleEndian width n) = n := by
  induction width generalizing n with
  | zero =>
    simp only [Nat.pow_eq, Nat.pow_zero] at h
    simp only [toLittleEndian, littleEndian]
    omega
  | succ width ih =>
    have hn : n / 256 < Nat.pow 256 width := by
      simp only [Nat.pow_eq, Nat.pow_succ] at h ⊢
      omega
    simp only [toLittleEndian, littleEndian, ih hn, UInt8.toNat_ofNat']
    omega

theorem toLittleEndian_littleEndian (bytes : Bytes) :
    toLittleEndian bytes.length (littleEndian bytes) = bytes := by
  induction bytes with
  | nil => rfl
  | cons byte rest ih =>
    have := byte.toNat_lt
    have hq : (byte.toNat + 256 * littleEndian rest) / 256 = littleEndian rest := by omega
    have hr : UInt8.ofNat (byte.toNat + 256 * littleEndian rest) = byte := by
      apply UInt8.toNat_inj.1
      rw [UInt8.toNat_ofNat']
      omega
    simp only [littleEndian, List.length_cons, toLittleEndian, hq, hr, ih]

/-- A further byte at the end shifts the integer before it. -/
theorem bigEndian_append_singleton (bytes : Bytes) (byte : UInt8) :
    bigEndian (bytes ++ [byte]) = 256 * bigEndian bytes + byte.toNat := by
  simp [bigEndian]

/-- The bytes after an integer shift it by their number. -/
theorem foldl_digit (n : Nat) (bytes : Bytes) :
    bytes.foldl (fun n byte => 256 * n + byte.toNat) n =
      n * Nat.pow 256 bytes.length + bigEndian bytes := by
  unfold bigEndian
  induction bytes generalizing n with
  | nil => simp
  | cons byte rest ih =>
    rw [List.foldl_cons, List.foldl_cons, ih, ih (256 * 0 + byte.toNat), List.length_cons]
    simp only [Nat.pow_eq, Nat.pow_succ]
    grind

theorem bigEndian_replicate_zero_append (n : Nat) (bytes : Bytes) :
    bigEndian (List.replicate n 0 ++ bytes) = bigEndian bytes := by
  induction n with
  | zero => rfl
  | succ n ih => exact ih

theorem bigEndian_reverse (bytes : Bytes) : bigEndian bytes.reverse = littleEndian bytes := by
  induction bytes with
  | nil => rfl
  | cons byte rest ih =>
    rw [List.reverse_cons, bigEndian_append_singleton, ih, littleEndian, Nat.add_comm]

theorem bigEndian_lt (bytes : Bytes) : bigEndian bytes < Nat.pow 256 bytes.length := by
  have := littleEndian_lt bytes.reverse
  rwa [← bigEndian_reverse, List.reverse_reverse, List.length_reverse] at this

theorem bigEndian_toBigEndian {width n : Nat} (h : n < Nat.pow 256 width) :
    bigEndian (toBigEndian width n) = n := by
  rw [toBigEndian, bigEndian_reverse, littleEndian_toLittleEndian h]

theorem toBigEndian_bigEndian (bytes : Bytes) :
    toBigEndian bytes.length (bigEndian bytes) = bytes := by
  have := toLittleEndian_littleEndian bytes.reverse
  rw [← bigEndian_reverse, List.reverse_reverse, List.length_reverse] at this
  rw [toBigEndian, this, List.reverse_reverse]

/-! ## Exclusive or and blocks -/

/-- The bytewise exclusive or of data with a mask; data beyond the mask stays as it is. -/
def xor : (data mask : Bytes) → Bytes
  | [], _ => []
  | data, [] => data
  | byte :: data, m :: mask => (byte ^^^ m) :: xor data mask

/-- Successive blocks of `size` bytes; the last one may be shorter. -/
def blocks (size : Nat) (bytes : Bytes) : List Bytes :=
  if size = 0 ∨ bytes = [] then [] else bytes.take size :: blocks size (bytes.drop size)
termination_by bytes.length
decreasing_by
  cases bytes with
  | nil => simp_all
  | cons _ _ => simp only [List.length_drop, List.length_cons]; omega

def ofText (text : String) : Bytes :=
  text.toUTF8.toList

/-! ## Hexadecimal text -/

/-- The lower-case digit of a number below sixteen. -/
def hexDigit (n : Nat) : Char :=
  if n < 10 then Char.ofNat (48 + n) else Char.ofNat (87 + n)

def hexValue? (c : Char) : Option Nat :=
  if '0' ≤ c ∧ c ≤ '9' then some (c.toNat - 48)
  else if 'a' ≤ c ∧ c ≤ 'f' then some (c.toNat - 87)
  else if 'A' ≤ c ∧ c ≤ 'F' then some (c.toNat - 55)
  else none

/-- The digits of a byte string, two for each byte. -/
def hexDigits : Bytes → List Char
  | [] => []
  | byte :: rest => hexDigit (byte.toNat / 16) :: hexDigit (byte.toNat % 16) :: hexDigits rest

/-- Reads an even number of digits. -/
def ofHexDigits? : List Char → Option Bytes
  | [] => some []
  | high :: low :: rest => do
    let h ← hexValue? high
    let l ← hexValue? low
    let bytes ← ofHexDigits? rest
    return UInt8.ofNat (16 * h + l) :: bytes
  | [_] => none

/-- The hexadecimal text of a byte string. -/
def toHex (bytes : Bytes) : String :=
  String.ofList (hexDigits bytes)

/-- The byte string that a hexadecimal text writes. -/
def ofHex? (text : String) : Option Bytes :=
  ofHexDigits? text.toList

theorem hexValue?_hexDigit {n : Nat} (h : n < 16) : hexValue? (hexDigit n) = some n := by
  have all : ∀ m : Fin 16, hexValue? (hexDigit m.val) = some m.val := by decide
  exact all ⟨n, h⟩

theorem ofHexDigits?_hexDigits (bytes : Bytes) : ofHexDigits? (hexDigits bytes) = some bytes := by
  induction bytes with
  | nil => rfl
  | cons byte rest ih =>
    have := byte.toNat_lt
    have hb : UInt8.ofNat (16 * (byte.toNat / 16) + byte.toNat % 16) = byte := by
      rw [Nat.div_add_mod, UInt8.ofNat_toNat]
    have high := hexValue?_hexDigit (show byte.toNat / 16 < 16 by omega)
    have low := hexValue?_hexDigit (show byte.toNat % 16 < 16 by omega)
    rw [hexDigits, ofHexDigits?, high, low, ih]
    exact congrArg (fun b => some (b :: rest)) hb

/-- Reading the hexadecimal text gives the bytes back. -/
theorem ofHex?_toHex (bytes : Bytes) : ofHex? (toHex bytes) = some bytes := by
  rw [ofHex?, toHex, String.toList_ofList, ofHexDigits?_hexDigits]

end Bytes

end TwoParty
