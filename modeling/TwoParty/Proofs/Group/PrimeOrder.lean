/-
What the protocols require of a group: its members are the powers of the generator, which multiply
as their exponents add, the order is prime, and a member is read back from its encoding. Under
these laws the members are the image of the field of exponents under `antilog`, and every
computation with members is one with their logarithms.
-/
import TwoParty.Proofs.Group.Exponents
import Mathlib.Algebra.Field.ZMod

namespace TwoParty.CyclicGroup

/-- A cyclic group of prime order with a faithful encoding of its members. -/
structure PrimeOrder (G : CyclicGroup) : Prop where
  prime : G.order.Prime
  isMember_iff (a : G.Element) : G.isMember a = true ↔ ∃ e, G.exponentiateGenerator e = a
  logarithm_unique (e f : G.Scalar) :
    G.exponentiateGenerator e = G.exponentiateGenerator f → e = f
  generator_eq : G.exponentiateGenerator G.one = G.generator
  identity_eq : G.exponentiateGenerator G.zero = G.identity
  multiply_eq (e f : G.Scalar) :
    G.multiply (G.exponentiateGenerator e) (G.exponentiateGenerator f) =
      G.exponentiateGenerator (G.add e f)
  exponentiate_eq (e f : G.Scalar) :
    G.exponentiate (G.exponentiateGenerator e) f = G.exponentiateGenerator (G.mul e f)
  decode?_encode (a : G.Element) : G.isMember a = true → G.decode? (G.encode a) = some a
  length_encode_lt (a : G.Element) : G.isMember a = true → (G.encode a).length < 2 ^ 64
  scalarWidth_lt : G.scalarWidth < 2 ^ 64

/-- All that is encoded, members or not, has a length that is written in eight bytes. -/
structure Compact (G : CyclicGroup) : Prop where
  length_encode_lt (a : G.Element) : (G.encode a).length < 2 ^ 64
  scalarWidth_lt : G.scalarWidth < 2 ^ 64

/-- The member with a given logarithm. -/
def antilog (G : CyclicGroup) (x : ZMod G.order) : G.Element :=
  G.exponentiateGenerator (ofZMod x)

theorem exponentiateGenerator_eq_antilog {G : CyclicGroup} (e : G.Scalar) :
    G.exponentiateGenerator e = G.antilog (toZMod e) := by
  unfold antilog; rw [ofZMod_toZMod]

namespace PrimeOrder

variable {G : CyclicGroup} (hG : G.PrimeOrder)
include hG

theorem fact : Fact G.order.Prime := ⟨hG.prime⟩

/-! ## Logarithms -/

theorem isMember_antilog (x : ZMod G.order) : G.isMember (G.antilog x) = true :=
  (hG.isMember_iff _).2 ⟨_, rfl⟩

theorem exists_antilog {a : G.Element} (ha : G.isMember a = true) : ∃ x, G.antilog x = a := by
  obtain ⟨e, rfl⟩ := (hG.isMember_iff a).1 ha
  exact ⟨toZMod e, (exponentiateGenerator_eq_antilog e).symm⟩

theorem antilog_injective : Function.Injective G.antilog := by
  intro x y h
  have := congrArg toZMod (hG.logarithm_unique _ _ h)
  rwa [toZMod_ofZMod, toZMod_ofZMod] at this

theorem antilog_inj {x y : ZMod G.order} : G.antilog x = G.antilog y ↔ x = y :=
  hG.antilog_injective.eq_iff

theorem generator_eq_antilog : G.generator = G.antilog 1 := by
  rw [← hG.generator_eq, exponentiateGenerator_eq_antilog, toZMod_one]

theorem identity_eq_antilog : G.identity = G.antilog 0 := by
  rw [← hG.identity_eq, exponentiateGenerator_eq_antilog, toZMod_zero]

/-! ## Operations -/

theorem multiply_antilog (x y : ZMod G.order) :
    G.multiply (G.antilog x) (G.antilog y) = G.antilog (x + y) := by
  unfold antilog
  rw [hG.multiply_eq, exponentiateGenerator_eq_antilog, toZMod_add, toZMod_ofZMod, toZMod_ofZMod]
  rfl

theorem exponentiate_antilog (x : ZMod G.order) (e : G.Scalar) :
    G.exponentiate (G.antilog x) e = G.antilog (x * toZMod e) := by
  unfold antilog
  rw [hG.exponentiate_eq, exponentiateGenerator_eq_antilog, toZMod_mul, toZMod_ofZMod]
  rfl

theorem exponentiateInverse_antilog (x : ZMod G.order) (e : G.Scalar) :
    G.exponentiateInverse (G.antilog x) e = G.antilog (-(x * toZMod e)) := by
  unfold exponentiateInverse
  rw [hG.exponentiate_antilog, toZMod_neg, mul_neg]

theorem isMember_generator : G.isMember G.generator = true := by
  rw [hG.generator_eq_antilog]; exact hG.isMember_antilog 1

theorem isMember_identity : G.isMember G.identity = true := by
  rw [hG.identity_eq_antilog]; exact hG.isMember_antilog 0

theorem generator_ne_identity : G.generator ≠ G.identity := by
  have := hG.fact
  rw [hG.generator_eq_antilog, hG.identity_eq_antilog, ne_eq, hG.antilog_inj]
  exact one_ne_zero

theorem isMember_exponentiate {a : G.Element} (ha : G.isMember a = true) (e : G.Scalar) :
    G.isMember (G.exponentiate a e) = true := by
  obtain ⟨x, rfl⟩ := hG.exists_antilog ha
  rw [hG.exponentiate_antilog]
  exact hG.isMember_antilog _

theorem isMember_multiply {a b : G.Element} (ha : G.isMember a = true) (hb : G.isMember b = true) :
    G.isMember (G.multiply a b) = true := by
  obtain ⟨x, rfl⟩ := hG.exists_antilog ha
  obtain ⟨y, rfl⟩ := hG.exists_antilog hb
  rw [hG.multiply_antilog]
  exact hG.isMember_antilog _

/-- Powers with nonzero exponents of members other than the identity are not the identity. -/
theorem exponentiate_ne_identity {a : G.Element} (ha : G.isMember a = true) (hne : a ≠ G.identity)
    {e : G.Scalar} (he : toZMod e ≠ 0) : G.exponentiate a e ≠ G.identity := by
  have := hG.fact
  obtain ⟨x, rfl⟩ := hG.exists_antilog ha
  rw [hG.identity_eq_antilog, ne_eq, hG.antilog_inj] at hne
  rw [hG.exponentiate_antilog, hG.identity_eq_antilog, ne_eq, hG.antilog_inj]
  exact mul_ne_zero hne he

/-! ## Encoded members -/

theorem decodeMember_encode (name : String) {a : G.Element} (ha : G.isMember a = true) :
    G.decodeMember name (G.encode a) = .ok a := by
  unfold decodeMember
  rw [hG.decode?_encode a ha]
  simp [ha]

theorem decodeNontrivial_encode (name : String) {a : G.Element} (ha : G.isMember a = true)
    (hne : a ≠ G.identity) : G.decodeNontrivial name (G.encode a) = .ok a := by
  unfold decodeNontrivial
  rw [hG.decodeMember_encode name ha]
  exact if_neg hne

end PrimeOrder

variable {G : CyclicGroup}

theorem isMember_of_decodeMember {name : String} {bytes : Bytes} {a : G.Element}
    (h : G.decodeMember name bytes = .ok a) : G.isMember a = true := by
  unfold decodeMember at h
  split at h
  · split at h
    · rename_i hm; cases h; exact hm
    · cases h
  · cases h

theorem decodeNontrivial_ok {name : String} {bytes : Bytes} {a : G.Element}
    (h : G.decodeNontrivial name bytes = .ok a) :
    G.decodeMember name bytes = .ok a ∧ a ≠ G.identity := by
  unfold decodeNontrivial at h
  rcases hd : G.decodeMember name bytes with cause | b
  · rw [hd] at h; cases h
  · rw [hd] at h
    simp only [bind, Except.bind] at h
    split at h
    · cases h
    · rename_i hne; cases h; exact ⟨rfl, hne⟩

end TwoParty.CyclicGroup
