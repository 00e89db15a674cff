/-
What the transfer asks of a key derivation: up to the length that it promises it makes keys, each
of the length that was requested. HKDF does: it makes exactly the keys up to the length that it
announces, and each is the beginning of one stream of 255 blocks, so that a shorter key begins
every longer one of the same seed.
-/
import TwoParty.KeyDerivation
import TwoParty.Proofs.Bytes

namespace TwoParty

/-! ## The stream of blocks -/

namespace Hkdf

/-- Block zero is empty. Every later one authenticates the one before it, the context string and
its own number. -/
def block (key : Bytes) : Nat → Bytes
  | 0 => []
  | i + 1 => hmacSha256 key (block key i ++ info ++ [UInt8.ofNat (i + 1)])

/-- All that a seed expands to: as many blocks as a byte can number. -/
def stream (seed : Bytes) : Bytes :=
  (List.range' 1 255).flatMap (block (extract seed))

theorem expand_eq_flatMap (key : Bytes) (count i : Nat) :
    expand key count (i + 1) (block key i) = (List.range' (i + 1) count).flatMap (block key) := by
  induction count generalizing i with
  | zero => rfl
  | succ count ih =>
    rw [expand, List.range'_succ, List.flatMap_cons, ← ih (i + 1)]
    rfl

theorem expand_one (key : Bytes) (count : Nat) :
    expand key count 1 [] = (List.range' 1 count).flatMap (block key) :=
  expand_eq_flatMap key count 0

theorem blockCount_le_iff {length : Nat} : blockCount length ≤ 255 ↔ length ≤ maxLength := by
  unfold blockCount maxLength
  omega

theorem length_stream (seed : Bytes) : (stream seed).length = maxLength := by
  unfold stream
  rw [← expand_one, length_expand]
  rfl

theorem length_take_stream (seed : Bytes) {length : Nat} (h : length ≤ maxLength) :
    ((stream seed).take length).length = length := by
  rw [List.length_take, length_stream]
  exact min_eq_left h

/-- The blocks that a key takes begin the stream, and the key ends within them. -/
theorem key_eq_take (seed : Bytes) {length : Nat} (h : length ≤ maxLength) :
    key seed length = (stream seed).take length := by
  have hsplit : List.range' 1 255 = List.range' 1 (blockCount length) ++
      List.range' (1 + blockCount length) (255 - blockCount length) := by
    have := blockCount_le_iff.2 h
    rw [List.range'_append_1, Nat.add_sub_cancel' this]
  unfold stream
  rw [hsplit, List.flatMap_append, ← expand_one, List.take_append_of_le_length]
  · rfl
  · rw [length_expand, blockCount]
    omega

theorem key?_eq (seed : Bytes) (length : Nat) :
    key? seed length = if length ≤ maxLength then some ((stream seed).take length) else none := by
  unfold key?
  simp only [blockCount_le_iff]
  split
  · rename_i h
    rw [key_eq_take seed h]
  · rfl

end Hkdf

namespace KeyDerivation

/-- Every key up to the promised length is made, with the requested length. -/
structure Faithful (kdf : KeyDerivation) : Prop where
  maxLength_lt : kdf.maxLength < 2 ^ 64
  derives (seed : Bytes) (length : Nat) : length ≤ kdf.maxLength →
    ∃ key, kdf.derive? seed length = some key ∧ key.length = length

theorem Faithful.derive_ok {kdf : KeyDerivation} (h : kdf.Faithful) (seed : Bytes) {length : Nat}
    (hlen : length ≤ kdf.maxLength) :
    ∃ key, kdf.derive seed length = .ok key ∧ key.length = length := by
  obtain ⟨key, hkey, hkeylen⟩ := h.derives seed length hlen
  refine ⟨key, ?_, hkeylen⟩
  unfold derive
  rw [hkey]

theorem faithful_hkdfSha256 : hkdfSha256.Faithful where
  maxLength_lt := by decide
  derives seed length hlen := by
    refine ⟨(Hkdf.stream seed).take length, ?_, ?_⟩
    · exact (Hkdf.key?_eq seed length).trans (if_pos hlen)
    · exact Hkdf.length_take_stream seed hlen

end KeyDerivation

end TwoParty
