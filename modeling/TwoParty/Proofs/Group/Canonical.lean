/-
What is received has one written form. In a group of residues of prime order the bytes that are read
as a member are its eight bytes and no others, and the members are the squares; an exponent is read
from the bytes that write it only. A point of the curve has a few forms, and all are read as it.
-/
import TwoParty.Proofs.Group.Curve.Order
import TwoParty.Proofs.Group.Decoding
import TwoParty.Proofs.Group.Laws

namespace TwoParty

namespace CyclicGroup

variable {G : CyclicGroup}

/-! ## Exponents -/

/-- Exponents are written in `width` bytes, and nothing else is read as one. -/
structure ReadsExponents (G : CyclicGroup) (width : Nat) : Prop where
  encodeScalar_iff (bytes : Bytes) (a : G.Scalar) :
    bytes = G.encodeScalar a ↔ bytes.length = width ∧ bytes.integer = a.val
  decodeScalar?_iff (bytes : Bytes) (a : G.Scalar) :
    G.decodeScalar? bytes = some a ↔ bytes = G.encodeScalar a
  received (name : String) (bytes : Bytes) (a : G.Scalar) :
    G.decodeReceivedScalar name bytes = .ok a ↔ bytes = G.encodeScalar a
  refused (name : String) (bytes : Bytes) (cause : Cheating) :
    G.decodeReceivedScalar name bytes = .error cause ↔
      (∀ a, bytes ≠ G.encodeScalar a) ∧ cause = .invalidScalar name

theorem readsExponents (G : CyclicGroup) : G.ReadsExponents G.scalarWidth where
  encodeScalar_iff bytes a :=
    Bytes.eq_toBigEndian_iff (lt_of_lt_of_le a.isLt (Nat.pow_eq ▸ G.order_le))
  decodeScalar?_iff bytes a := decodeScalar?_eq_some_iff
  received name bytes a := by rw [decodeReceivedScalar_eq_ok_iff, decodeScalar?_eq_some_iff]
  refused name bytes cause := by
    rw [decodeReceivedScalar_eq_error_iff, Option.eq_none_iff_forall_ne_some]
    simp only [ne_eq, decodeScalar?_eq_some_iff]

/-! ## Members -/

/-- Members are read from the forms that `form` gives them, and nothing else is read as one. Where
the identity is of no use its forms are refused, and nothing else changes. -/
structure ReadsMembers (G : CyclicGroup) (form : G.Element → Bytes → Prop) : Prop where
  decodeMember_ok (name : String) (bytes : Bytes) (a : G.Element) :
    G.decodeMember name bytes = .ok a ↔ G.isMember a = true ∧ form a bytes
  decodeMember_error (name : String) (bytes : Bytes) (cause : Cheating) :
    G.decodeMember name bytes = .error cause ↔
      (∀ a, G.isMember a = true → ¬ form a bytes) ∧ cause = .notMember name
  decodeNontrivial_identity (name : String) (bytes : Bytes) :
    G.decodeNontrivial name bytes = .error (.identityElement name) ↔ form G.identity bytes
  decodeNontrivial_other (name : String) (bytes : Bytes) (h : ¬ form G.identity bytes) :
    G.decodeNontrivial name bytes = G.decodeMember name bytes

theorem readsMembers {form : G.Element → Bytes → Prop} (hidentity : G.isMember G.identity = true)
    (h : ∀ bytes a, G.Describes bytes a ↔ G.isMember a = true ∧ form a bytes) :
    G.ReadsMembers form where
  decodeMember_ok name bytes a := decodeMember_eq_ok_iff.trans (h bytes a)
  decodeMember_error name bytes cause := by
    rw [decodeMember_eq_error_iff]
    simp only [h, not_and]
  decodeNontrivial_identity name bytes := by
    rw [decodeNontrivial_eq_identityElement_iff, h, and_iff_right hidentity]
  decodeNontrivial_other name bytes hno :=
    decodeNontrivial_eq_decodeMember fun hdescribes => hno ((h bytes _).1 hdescribes).2

end CyclicGroup

/-! ## Residues -/

namespace Residues

variable {R : Residues}

/-- The members are the squares other than zero. -/
theorem isMember_iff_isSquare (hq : R.order.Prime) (x : R.group.Element) :
    R.group.isMember x = true ↔ 0 < Fin.val (n := R.modulus) x ∧ IsSquare (value x) := by
  have hp := modulus_prime hq
  have hsquare (hpos : 0 < Fin.val (n := R.modulus) x) :
      R.group.isMember x = true ↔ IsSquare (value x) := by
    rw [isMember_iff_pow]
    exact (powerModulo_eq_one_iff hp.one_lt _ _).symm.trans
      (powerModulo_eq_one_iff_isSquare hp hpos (Fin.isLt _))
  constructor
  · intro hx
    have hpos := val_pos_of_isMember hp hx
    exact ⟨hpos, (hsquare hpos).1 hx⟩
  · rintro ⟨hpos, hx⟩
    exact (hsquare hpos).2 hx

theorem eq_encode_iff {bytes : Bytes} {x : R.group.Element} :
    bytes = R.group.encode x ↔
      bytes.length = 8 ∧ bytes.integer = Fin.val (n := R.modulus) x :=
  Bytes.eq_toBigEndian_iff (val_lt_width x)

theorem describes_iff (hq : R.order.Prime) {bytes : Bytes} {x : R.group.Element} :
    R.group.Describes bytes x ↔ R.group.isMember x = true ∧ bytes = R.group.encode x := by
  unfold CyclicGroup.Describes
  rw [decode?_eq_some_iff]
  constructor
  · rintro ⟨⟨-, hbytes⟩, hx⟩
    exact ⟨hx, hbytes⟩
  · rintro ⟨hx, hbytes⟩
    exact ⟨⟨val_pos_of_isMember (modulus_prime hq) hx, hbytes⟩, hx⟩

/-- The members are the squares, and each is read from one string of eight bytes only. -/
structure Canonical (R : Residues) : Prop where
  isMember_iff (x : R.Element) :
    R.isMember x = true ↔ 0 < x.val ∧ IsSquare (x.val : ZMod R.modulus)
  encode_iff (bytes : Bytes) (x : R.Element) :
    bytes = R.group.encode x ↔ bytes.length = 8 ∧ bytes.integer = x.val
  members : R.group.ReadsMembers fun x bytes => bytes = R.group.encode x
  form_unique (name : String) (x : R.Element) (hx : R.isMember x = true) :
    ∃! bytes, R.group.decodeMember name bytes = .ok x
  identity_iff (bytes : Bytes) :
    bytes = R.group.encode R.group.identity ↔ bytes.length = 8 ∧ bytes.integer = 1
  exponents : R.group.ReadsExponents 8

theorem canonical (hq : R.order.Prime) : R.Canonical := by
  have hp := modulus_prime hq
  have hidentity : Fin.val (n := R.modulus) R.group.identity = 1 := Nat.mod_eq_of_lt hp.one_lt
  have hmembers : R.group.ReadsMembers fun x bytes => bytes = R.group.encode x :=
    CyclicGroup.readsMembers (primeOrder hp hq).isMember_identity fun _ _ => describes_iff hq
  constructor
  case isMember_iff => exact isMember_iff_isSquare hq
  case encode_iff => exact fun bytes x => eq_encode_iff
  case members => exact hmembers
  case form_unique =>
    intro name x hx
    refine ⟨R.group.encode x, (hmembers.decodeMember_ok name _ x).2 ⟨hx, rfl⟩, fun bytes h => ?_⟩
    exact ((hmembers.decodeMember_ok name bytes x).1 h).2
  case identity_iff =>
    intro bytes
    rw [eq_encode_iff, hidentity]
  case exponents => exact R.group.readsExponents

end Residues

/-! ## Points -/

namespace Curve

theorem describes_iff {bytes : Bytes} {P : Point} :
    group.Describes bytes P ↔ P.onCurve = true ∧ P.WrittenAs bytes := by
  unfold CyclicGroup.Describes
  constructor
  · rintro ⟨hread, hP⟩
    exact ⟨hP, (Point.decode?_eq_some_iff.1 hread).2⟩
  · rintro ⟨hP, hwritten⟩
    exact ⟨Point.decode?_eq_some_iff.2 ⟨hP, hwritten⟩, hP⟩

/-- Every point is read from its written form, and from the others that it has; all of them are
written anew in the first. The point at infinity has one, which is refused where it is of no use. -/
structure Canonical : Prop where
  decode?_encode (P : Point) (hP : P.onCurve = true) :
    group.decode? (group.encode P) = some P
  decode?_iff (bytes : Bytes) (P : Point) :
    group.decode? bytes = some P ↔ P.onCurve = true ∧ P.WrittenAs bytes
  decode?_reencoded (bytes : Bytes) (P : Point) (h : group.decode? bytes = some P) :
    group.decode? (group.encode P) = some P
  members : group.ReadsMembers Point.WrittenAs
  identity_iff (bytes : Bytes) : Point.infinity.WrittenAs bytes ↔ bytes = [0]
  exponents : group.ReadsExponents 32

theorem canonical : Canonical where
  decode?_encode P hP := Point.decode?_encode hP
  decode?_iff bytes P := Point.decode?_eq_some_iff
  decode?_reencoded bytes P h := Point.decode?_encode (Point.decode?_eq_some_iff.1 h).1
  members := CyclicGroup.readsMembers rfl fun _ _ => describes_iff
  identity_iff bytes := ⟨by rintro ⟨⟩; rfl, by rintro rfl; exact .infinity⟩
  exponents := group.readsExponents

end Curve

/-- What is received in a group of residues of prime order or on the curve is read canonically. -/
theorem received_canonically :
    (∀ R : Residues, R.order.Prime → R.Canonical) ∧ Curve.Canonical :=
  ⟨fun _ => Residues.canonical, Curve.canonical⟩

/-- Thirteen is a square modulo 23, five is not, and one is the identity. -/
theorem received_canonically_order11 :
    Nat.Prime 11 ∧ Residues.order11.Canonical ∧
    (Residues.order11.group.decodeMember "h" [0, 0, 0, 0, 0, 0, 0, 13] =
      .ok (Residues.order11.residue 13)) ∧
    Residues.order11.group.decodeMember "h" [0, 0, 0, 0, 0, 0, 0, 5] = .error (.notMember "h") ∧
    Residues.order11.group.decodeNontrivial "h" [0, 0, 0, 0, 0, 0, 0, 1] =
      .error (.identityElement "h") := by
  have hq : Nat.Prime 11 := by norm_num
  have h : Residues.order11.Canonical := received_canonically.1 Residues.order11 hq
  refine ⟨hq, h, ?_, ?_, ?_⟩
  · exact (h.members.decodeMember_ok "h" _ _).2 ⟨rfl, rfl⟩
  · rfl
  · exact (h.members.decodeNontrivial_identity "h" _).2 rfl

end TwoParty
