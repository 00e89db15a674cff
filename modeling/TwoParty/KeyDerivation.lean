/-
Key derivation: the deterministic expansion of a seed into a key of a requested length. The
instance for real use is HKDF with SHA-256.
-/
import TwoParty.Error
import TwoParty.Hash.Sha256

namespace TwoParty

/-- A deterministic expansion of seeds into keys. -/
structure KeyDerivation where
  /-- The longest key that is promised. -/
  maxLength : Nat
  /-- The key of the requested length, or nothing if it is too long to be made. -/
  derive? : (seed : Bytes) → (length : Nat) → Option Bytes

namespace Hkdf

/-- The context string that separates this use of HKDF from others. -/
def info : Bytes := Bytes.ofText "dlog-protocols KDF"

/-- The longest key that is announced: 255 blocks of thirty-two bytes. -/
def maxLength : Nat := 255 * 32

/-- The pseudorandom key of a seed, extracted with an empty salt. -/
def extract (seed : Bytes) : Bytes :=
  hmacSha256 (List.replicate 32 0) seed

/-- The next `count` blocks after the block `previous`, the first of them numbered `index`. -/
def expand (key : Bytes) : (count index : Nat) → (previous : Bytes) → Bytes
  | 0, _, _ => []
  | count + 1, index, previous =>
    let block := hmacSha256 key (previous ++ info ++ [UInt8.ofNat index])
    block ++ expand key count (index + 1) block

theorem length_expand (key : Bytes) (count index : Nat) (previous : Bytes) :
    (expand key count index previous).length = 32 * count := by
  induction count generalizing index previous with
  | zero => rfl
  | succ count ih => simp [expand, ih]; omega

/-- How many blocks a key of the given length takes, the last one perhaps in part. -/
def blockCount (length : Nat) : Nat := (length + 31) / 32

/-- The first `length` bytes of the expansion of a seed. -/
def key (seed : Bytes) (length : Nat) : Bytes :=
  (expand (extract seed) (blockCount length) 1 []).take length

/-- The key of the given length, unless it takes more blocks than a byte can number. -/
def key? (seed : Bytes) (length : Nat) : Option Bytes :=
  if blockCount length ≤ 255 then some (key seed length) else none

end Hkdf

namespace KeyDerivation

/-- The key of the requested length, or the error that names the length. -/
def derive (kdf : KeyDerivation) (seed : Bytes) (length : Nat) : Except InputError Bytes :=
  match kdf.derive? seed length with
  | some key => .ok key
  | none => .error (.keyLength length)

/-- HKDF with HMAC-SHA256, an empty salt and a fixed context string. -/
def hkdfSha256 : KeyDerivation where
  maxLength := Hkdf.maxLength
  derive? := Hkdf.key?

/-- Repeats the seed and mixes in each byte's position. It hides nothing and may promise more than
it makes: it serves where only lengths and failures matter. -/
def cyclic (maxLength failAbove : Nat) : KeyDerivation where
  maxLength := maxLength
  derive? seed length :=
    if length ≤ failAbove then
      let cycle := seed.toArray
      some ((List.range length).map fun i => cycle.getD (i % cycle.size) 0 ^^^ UInt8.ofNat i)
    else none

end KeyDerivation

end TwoParty
