/-
Exponents are the integers modulo the order: their operations are those of `ZMod`, whatever the
order, and powers by repeated squaring are powers. An exponent has one written form, and the bytes
of an integer below the order are read as that integer, however many zero bytes stand in front.
-/
import TwoParty.Group.Basic
import TwoParty.Proofs.Bytes
import Mathlib.Data.ZMod.Basic

namespace TwoParty

/-! ## Repeated squaring -/

section Power

variable {α M : Type} [Monoid M] {f : α → α → α} {one : α} {φ : α → M}

theorem map_powerBits (hone : φ one = 1) (hmul : ∀ a b, φ (f a b) = φ a * φ b) (base : α)
    {bits e : Nat} (he : e < 2 ^ bits) :
    φ (powerBits f one base bits e) = φ base ^ e := by
  induction bits generalizing e with
  | zero =>
    have : e = 0 := by simpa using he
    subst this
    rw [powerBits, hone, pow_zero]
  | succ bits ih =>
    have hhalf : e / 2 < 2 ^ bits := by rw [pow_succ] at he; omega
    have hsq : φ base ^ (e / 2) * φ base ^ (e / 2) = φ base ^ (2 * (e / 2)) := by
      rw [← pow_add]; congr 1; omega
    -- an odd exponent takes one factor more than twice its half
    simp only [powerBits]
    split
    · rename_i hodd
      rw [hmul, hmul, ih hhalf, hsq, ← pow_succ]
      congr 1; omega
    · rw [hmul, ih hhalf, hsq]
      congr 1; omega

/-- Repeated squaring computes the power, in whatever monoid the elements are read. -/
theorem map_powerBy (hone : φ one = 1) (hmul : ∀ a b, φ (f a b) = φ a * φ b) (base : α)
    (e : Nat) : φ (powerBy f one base e) = φ base ^ e :=
  map_powerBits hone hmul base Nat.lt_log2_self

end Power

namespace CyclicGroup

variable {G : CyclicGroup}

instance : NeZero G.order := ⟨G.order_pos.ne'⟩

/-! ## Residues -/

/-- An exponent as an integer modulo the order. -/
def toZMod (a : G.Scalar) : ZMod G.order := (a.val : ZMod G.order)

/-- The exponent of an integer modulo the order. -/
def ofZMod (x : ZMod G.order) : G.Scalar := ⟨x.val, ZMod.val_lt x⟩

@[simp] theorem toZMod_ofZMod (x : ZMod G.order) : toZMod (ofZMod x) = x :=
  ZMod.natCast_zmod_val x

@[simp] theorem ofZMod_toZMod (a : G.Scalar) : ofZMod (toZMod a) = a :=
  Fin.ext (ZMod.val_natCast_of_lt a.isLt)

theorem toZMod_injective : Function.Injective (toZMod (G := G)) :=
  Function.LeftInverse.injective ofZMod_toZMod

@[simp] theorem toZMod_inj {a b : G.Scalar} : toZMod a = toZMod b ↔ a = b :=
  toZMod_injective.eq_iff

@[simp] theorem toZMod_scalar (n : Nat) : toZMod (G.scalar n) = (n : ZMod G.order) :=
  ZMod.natCast_mod n G.order

@[simp] theorem toZMod_zero : toZMod G.zero = 0 := Nat.cast_zero

@[simp] theorem toZMod_one : toZMod G.one = 1 := by
  unfold one; rw [toZMod_scalar, Nat.cast_one]

@[simp] theorem toZMod_add (a b : G.Scalar) : toZMod (G.add a b) = toZMod a + toZMod b := by
  unfold add; rw [toZMod_scalar, Nat.cast_add]; rfl

@[simp] theorem toZMod_mul (a b : G.Scalar) : toZMod (G.mul a b) = toZMod a * toZMod b := by
  unfold mul; rw [toZMod_scalar, Nat.cast_mul]; rfl

@[simp] theorem toZMod_neg (a : G.Scalar) : toZMod (G.neg a) = -toZMod a := by
  unfold neg
  rw [toZMod_scalar, Nat.cast_sub a.isLt.le, ZMod.natCast_self, zero_sub]
  rfl

/-- Adds a residue to an exponent. -/
def shift (d : ZMod G.order) : G.Scalar ≃ G.Scalar where
  toFun r := ofZMod (toZMod r + d)
  invFun r := ofZMod (toZMod r - d)
  left_inv r := by simp
  right_inv r := by simp

theorem add_eq_shift (a b : G.Scalar) : G.add a b = shift (toZMod b) a :=
  toZMod_injective (by simp [shift])

/-! ## Written form -/

@[simp] theorem length_encodeScalar (a : G.Scalar) : (G.encodeScalar a).length = G.scalarWidth :=
  Bytes.length_toBigEndian _ _

theorem bigEndian_encodeScalar (a : G.Scalar) : (G.encodeScalar a).bigEndian = a.val :=
  Bytes.bigEndian_toBigEndian (lt_of_lt_of_le a.isLt G.order_le)

/-- Reading the written form of an exponent gives it back. -/
theorem decodeScalar?_encodeScalar (a : G.Scalar) :
    G.decodeScalar? (G.encodeScalar a) = some a := by
  unfold decodeScalar?
  have h := bigEndian_encodeScalar a
  rw [if_pos (length_encodeScalar a), dif_pos (by rw [h]; exact a.isLt)]
  exact congrArg some (Fin.ext h)

/-- Nothing else is read as an exponent. -/
theorem decodeScalar?_eq_some_iff {bytes : Bytes} {a : G.Scalar} :
    G.decodeScalar? bytes = some a ↔ bytes = G.encodeScalar a := by
  constructor
  · intro h
    unfold decodeScalar? at h
    split_ifs at h with hlen hlt
    cases h
    show bytes = Bytes.toBigEndian G.scalarWidth bytes.bigEndian
    rw [← hlen, Bytes.toBigEndian_bigEndian]
  · rintro rfl
    exact decodeScalar?_encodeScalar a

@[simp] theorem decodeReceivedScalar_encodeScalar (name : String) (a : G.Scalar) :
    G.decodeReceivedScalar name (G.encodeScalar a) = .ok a := by
  unfold decodeReceivedScalar; rw [decodeScalar?_encodeScalar]

/-! ## Bytes as exponents -/

/-- An integer below the order is not reduced. -/
theorem scalarOfBytes_of_lt {bytes : Bytes} (h : bytes.bigEndian < G.order) :
    G.scalarOfBytes bytes = ⟨bytes.bigEndian, h⟩ :=
  Fin.ext ((G.val_scalarOfBytes bytes).trans (Nat.mod_eq_of_lt h))

/-- Bytes are an exponent exactly if their integer is below the order. -/
theorem exponentOfBytes?_eq (bytes : Bytes) :
    G.exponentOfBytes? bytes =
      if h : bytes.bigEndian < G.order then some ⟨bytes.bigEndian, h⟩ else none := by
  have hle := G.order_le
  rw [Nat.pow_eq] at hle
  unfold exponentOfBytes?
  simp only
  split
  · rename_i hlen
    have hval : (List.replicate (G.scalarWidth - bytes.significant.length) 0 ++
        bytes.significant : Bytes).bigEndian = bytes.bigEndian := by
      rw [Bytes.bigEndian_replicate_zero_append, Bytes.bigEndian_significant]
    unfold decodeScalar?
    rw [if_pos (by simp; omega)]
    simp only [hval]
  · -- with more digits than the width the integer is beyond all exponents
    rename_i hlen
    rw [Bytes.length_significant_le_iff] at hlen
    rw [dif_neg (by omega)]

/-- An exponent below `256 ^ n` is written as zeros and its last `n` bytes. -/
theorem encodeScalar_scalarOfBytes {bytes : Bytes} (hlen : bytes.length ≤ G.scalarWidth)
    (h : bytes.bigEndian < G.order) :
    G.encodeScalar (G.scalarOfBytes bytes) =
      List.replicate (G.scalarWidth - bytes.length) 0 ++ bytes := by
  unfold encodeScalar
  rw [scalarOfBytes_of_lt h]
  exact Bytes.toBigEndian_eq_replicate_append hlen rfl

end CyclicGroup

end TwoParty
