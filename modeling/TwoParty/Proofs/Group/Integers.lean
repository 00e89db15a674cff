/-
Byte strings as exponents. Whatever its length, a byte string is read as its integer modulo the
order, digit by digit in the groups of residues and block by block on the curve; as a value to be
committed to it is admitted exactly if its integer is below the order, and then both readings agree.
-/
import TwoParty.Commitment.Pedersen
import TwoParty.Group.Curve
import TwoParty.Group.Residues
import TwoParty.Proofs.Group.Exponents

namespace TwoParty

/-! ## Exponents -/

namespace CyclicGroup

variable {G : CyclicGroup}

theorem exponentOfBytes?_eq_some_iff {bytes : Bytes} {a : G.Scalar} :
    G.exponentOfBytes? bytes = some a ↔
      bytes.bigEndian < G.order ∧ a = G.scalarOfBytes bytes := by
  rw [exponentOfBytes?_eq]
  split
  · rename_i h
    rw [scalarOfBytes_of_lt h, Option.some.injEq]
    exact ⟨fun heq => ⟨h, heq.symm⟩, fun heq => heq.2.symm⟩
  · rename_i h
    exact iff_of_false nofun fun hlt => h hlt.1

theorem exponentOfBytes?_eq_none_iff {bytes : Bytes} :
    G.exponentOfBytes? bytes = none ↔ G.order ≤ bytes.bigEndian := by
  rw [exponentOfBytes?_eq]
  split
  · rename_i h
    exact iff_of_false nofun (by omega)
  · rename_i h
    exact iff_of_true rfl (by omega)

end CyclicGroup

/-! ## Values -/

namespace Pedersen.Committer

variable {G : CyclicGroup} {bytes : Bytes}

/-- A value is what the bytes are as an exponent. -/
theorem valueOfBytes_eq (bytes : Bytes) :
    (valueOfBytes bytes : Except InputError G.Scalar) =
      (G.exponentOfBytes? bytes).elim (.error .valueOutOfRange) .ok := by
  unfold valueOfBytes
  rcases G.exponentOfBytes? bytes with _ | a
  · rfl
  · rfl

theorem valueOfBytes_eq_ok_iff {a : G.Scalar} :
    valueOfBytes bytes = .ok a ↔ G.exponentOfBytes? bytes = some a := by
  rw [valueOfBytes_eq]
  rcases G.exponentOfBytes? bytes with _ | b
  · exact iff_of_false nofun nofun
  · simp

theorem valueOfBytes_eq_error_iff {error : InputError} :
    (valueOfBytes bytes : Except InputError G.Scalar) = .error error ↔
      G.exponentOfBytes? bytes = none ∧ error = .valueOutOfRange := by
  rw [valueOfBytes_eq]
  rcases G.exponentOfBytes? bytes with _ | b
  · simp [eq_comm]
  · simp

end Pedersen.Committer

/-! ## Readings -/

namespace CyclicGroup

open Pedersen

variable {G : CyclicGroup} {read : Bytes → G.Scalar}

/-- What byte strings of any length are for a group that reads them by `read`. -/
structure ReadsIntegers (G : CyclicGroup) (read : Bytes → G.Scalar) : Prop where
  scalarOfBytes_eq : G.scalarOfBytes = read
  /-- Every integer is read modulo the order. -/
  reduced (bytes : Bytes) : (read bytes).val = bytes.integer % G.order
  /-- The integers below the order are exponents, and no others. -/
  admitted (bytes : Bytes) (a : G.Scalar) :
    G.exponentOfBytes? bytes = some a ↔ bytes.integer < G.order ∧ a = read bytes
  rejected (bytes : Bytes) : G.exponentOfBytes? bytes = none ↔ G.order ≤ bytes.integer
  /-- Zero bytes in front do not count. -/
  padded (n : Nat) (bytes : Bytes) : read (List.replicate n 0 ++ bytes) = read bytes ∧
    G.exponentOfBytes? (List.replicate n 0 ++ bytes) = G.exponentOfBytes? bytes
  empty : read [] = G.zero ∧ G.exponentOfBytes? [] = some G.zero
  /-- A committer takes the exponents as values. -/
  value (committer : Committer G) (bytes : Bytes) (a : G.Scalar) :
    CommitterRole.valueOfBytes committer bytes = .ok a ↔
      bytes.integer < G.order ∧ a = read bytes
  outOfRange (committer : Committer G) (bytes : Bytes) (error : InputError) :
    CommitterRole.valueOfBytes committer bytes = .error error ↔
      G.order ≤ bytes.integer ∧ error = .valueOutOfRange

/-- One law of a reading settles all the rest. -/
theorem readsIntegers (heq : G.scalarOfBytes = read)
    (hread : ∀ bytes, (read bytes).val = bytes.bigEndian % G.order) : G.ReadsIntegers read := by
  have hpadded (n : Nat) (bytes : Bytes) :
      (List.replicate n 0 ++ bytes : Bytes).bigEndian = bytes.bigEndian :=
    Bytes.bigEndian_replicate_zero_append n bytes
  have hzero : read [] = G.zero := Fin.ext ((hread []).trans (Nat.zero_mod G.order))
  constructor
  case scalarOfBytes_eq => exact heq
  case reduced =>
    intro bytes
    rw [hread, Bytes.bigEndian_eq_integer]
  case admitted =>
    intro bytes a
    rw [exponentOfBytes?_eq_some_iff, Bytes.bigEndian_eq_integer, heq]
  case rejected =>
    intro bytes
    rw [exponentOfBytes?_eq_none_iff, Bytes.bigEndian_eq_integer]
  case padded =>
    intro n bytes
    refine ⟨Fin.ext ?_, ?_⟩
    · rw [hread, hread, hpadded]
    · simp only [exponentOfBytes?_eq, hpadded]
  case empty =>
    refine ⟨hzero, exponentOfBytes?_eq_some_iff.2 ⟨G.order_pos, ?_⟩⟩
    rw [heq, hzero]
  case value =>
    intro committer bytes a
    rw [← Bytes.bigEndian_eq_integer, ← heq, ← exponentOfBytes?_eq_some_iff]
    exact Committer.valueOfBytes_eq_ok_iff
  case outOfRange =>
    intro committer bytes error
    rw [← Bytes.bigEndian_eq_integer, ← exponentOfBytes?_eq_none_iff]
    exact Committer.valueOfBytes_eq_error_iff

end CyclicGroup

/-- In every group of residues and on the curve, byte strings of any length are read as integers
modulo the order, and are admitted as values if this changes nothing. -/
theorem integers_read :
    (∀ R : Residues, R.group.ReadsIntegers R.scalarOfBytes) ∧
      Curve.group.ReadsIntegers Curve.scalarOfBytes :=
  ⟨fun R => CyclicGroup.readsIntegers rfl R.val_scalarOfBytes,
    CyclicGroup.readsIntegers rfl Curve.val_scalarOfBytes⟩

end TwoParty
