/-
Challenges of a proof: byte strings whose length the soundness parameter fixes. The parameter is
such that every challenge is an exponent without reduction.
-/
import TwoParty.Attempt
import TwoParty.Group.Basic
import TwoParty.Group.Bits

namespace TwoParty

/-! ## Soundness parameters -/

/-- How many bits a challenge has: a positive multiple of eight, so few that every challenge is
below the group order. -/
structure Soundness (order : Nat) where
  bits : Nat
  bits_pos : 0 < bits
  aligned : bits % 8 = 0
  below : Nat.pow 2 bits < order

namespace Soundness

theorem toNat_pos_of_ne_zero {bits : UInt32} (h : bits ≠ 0) : 0 < bits.toNat :=
  Nat.pos_of_ne_zero fun hzero => h (UInt32.toNat_inj.1 hzero)

theorem toNat_mod_of_aligned {bits : UInt32} (h : bits % 8 = 0) : bits.toNat % 8 = 0 := by
  have := congrArg UInt32.toNat h
  rwa [UInt32.toNat_mod] at this

/-- The largest number of 32 bits is not a multiple of eight. -/
theorem toNat_succ_of_aligned {bits : UInt32} (h : bits % 8 = 0) :
    (bits + 1).toNat = bits.toNat + 1 := by
  have hmod := toNat_mod_of_aligned h
  have hlt := bits.toNat_lt
  rw [UInt32.toNat_add]
  simp
  omega

/-- The parameter of the given number of bits, if it is admissible. -/
def new? (order : Nat) (bits : UInt32) : Except SetupError (Soundness order) :=
  if h : bits ≠ 0 ∧ bits % 8 = 0 then
    if hbelow : powerOfTwoBelow order bits then
      .ok
        { bits := bits.toNat
          bits_pos := toNat_pos_of_ne_zero h.1
          aligned := toNat_mod_of_aligned h.2
          below := (powerOfTwoBelow_iff (toNat_succ_of_aligned h.2)).1 hbelow }
    else .error (.soundnessTooLarge bits.toNat)
  else .error (.soundnessNotAligned bits.toNat)

def challengeLength {order : Nat} (soundness : Soundness order) : Nat :=
  soundness.bits / 8

end Soundness

/-! ## Challenges -/

/-- A challenge. Whether it has the right length is checked where it is used. -/
structure Challenge where
  bytes : Bytes
deriving DecidableEq, Repr

namespace Challenge

instance : Wire Challenge := Wire.wrap Challenge.bytes Challenge.mk

def random {order : Nat} (soundness : Soundness order) : Program Challenge := do
  return ⟨← Program.bytes soundness.challengeLength⟩

def check {order : Nat} (soundness : Soundness order) (e : Challenge) : Except Cheating Unit :=
  if e.bytes.length = soundness.challengeLength then .ok ()
  else .error (.challengeLength soundness.challengeLength e.bytes.length)

def scalar (G : CyclicGroup) (e : Challenge) : G.Scalar :=
  G.scalarOfBytes e.bytes

/-- The challenge whose integer an encoded exponent writes: all bytes before the last ones, as many
as a challenge has, must be zero. -/
def ofScalarEncoding {order : Nat} (soundness : Soundness order) (encoding : Bytes) :
    Except Cheating Challenge :=
  let length := soundness.challengeLength
  if encoding.length < length then .error (.challengeLength length encoding.length)
  else
    let high := encoding.take (encoding.length - length)
    if high.all (· == 0) then .ok ⟨encoding.drop (encoding.length - length)⟩
    else
      -- the length that would be needed is told, without the zeros in front
      let leading := (high.takeWhile (· == 0)).length
      .error (.challengeLength length (encoding.length - leading))

end Challenge

end TwoParty
