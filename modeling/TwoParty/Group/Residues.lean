/-
The group of order `q` inside the residues modulo `p = 2 * q + 1`. For primes `p` and `q` it
consists of the quadratic residues. Moduli are below 2^63, so these groups serve for tests and for
examples worked by hand.
-/
import TwoParty.Group.Basic

namespace TwoParty

def powerModulo (p : Nat) (base e : Nat) : Nat :=
  powerBy (fun a b => a * b % p) (1 % p) base e

/-- The bound `2^63` on moduli. -/
def Residues.limit : Nat := 0x8000000000000000

/-- The order `q` and the generator of a group of residues. Whether `q` and `2 * q + 1` are prime
is not checked. -/
structure Residues where
  order : Nat
  generator : Nat
  order_odd : order % 2 = 1
  modulus_lt : 2 * order + 1 < Residues.limit
  one_lt_generator : 1 < generator
  generator_lt : generator < 2 * order + 1
  generates : powerModulo (2 * order + 1) generator order = 1
deriving DecidableEq

namespace Residues

/-- The group of order `q` modulo `p` with generator `g`, if the three fit together. -/
def new? (p q g : Nat) : Except SetupError Residues :=
  if hp : p < limit then
    if hpq : 2 * q + 1 = p then
      if hq : q % 2 = 1 then
        if hg : 1 < g ∧ g < p then
          if h : powerModulo (2 * q + 1) g q = 1 then
            .ok ⟨q, g, hq, hpq ▸ hp, hg.1, hpq ▸ hg.2, h⟩
          else .error (.invalidGroup "g must generate the order-q subgroup")
        else .error (.invalidGroup "g must lie in (1, p)")
      else .error (.invalidGroup "q must be odd")
    else .error (.invalidGroup "p must equal 2q + 1")
  else .error (.invalidGroup "p must be below 2^63")

/-- The residues modulo 23, of order 11. -/
def order11 : Residues :=
  ⟨11, 2, by decide, by decide, by decide, by decide, by decide⟩

/-- A group whose order is a prime of 62 bits. -/
def order62Bit : Residues :=
  ⟨0x2000000000000ce1, 4, by decide, by decide, by decide, by decide, by decide +kernel⟩

variable (R : Residues)

def modulus : Nat := 2 * R.order + 1

theorem modulus_pos : 0 < R.modulus := by
  unfold modulus; omega

abbrev Element := Fin R.modulus

def residue (n : Nat) : R.Element :=
  ⟨n % R.modulus, Nat.mod_lt n R.modulus_pos⟩

/-- The element that an integer from one to below the modulus stands for. -/
def element? (n : Nat) : Option R.Element :=
  if h : 0 < n ∧ n < R.modulus then some ⟨n, h.2⟩ else none

def multiply (a b : R.Element) : R.Element :=
  R.residue (a.val * b.val)

def power (base : R.Element) (e : Nat) : R.Element :=
  powerBy R.multiply (R.residue 1) base e

/-- Whether the power of a residue to the order is one. -/
def isMember (a : R.Element) : Bool :=
  R.power a R.order = R.residue 1

/-- Whether an element of a second group of residues belongs to the first: both must have the same
modulus. -/
def isForeignMember (S : Residues) (a : S.Element) : Bool :=
  if S.modulus = R.modulus then R.isMember (R.residue a.val) else false

/-! ## Exponents -/

theorem order_pos : 0 < R.order := by
  have := R.order_odd
  omega

def orderBits : Nat := R.order.log2 + 1

/-- The exponent that an integer is congruent to. -/
def exponent (n : Nat) : Fin R.order :=
  ⟨n % R.order, Nat.mod_lt n R.order_pos⟩

/-- The bytes as digits of an integer, which is reduced after each of them. The radix is reduced as
well, for the order may be smaller. -/
def scalarOfBytes (bytes : Bytes) : Fin R.order :=
  bytes.foldl (fun n byte => (n.mul (R.exponent 256)).add (R.exponent byte.toNat)) (R.exponent 0)

/-- A digit on either side of a reduction. -/
theorem val_digit {a : Fin R.order} {n : Nat} (h : a.val = n % R.order) (byte : UInt8) :
    ((a.mul (R.exponent 256)).add (R.exponent byte.toNat)).val =
      (256 * n + byte.toNat) % R.order := by
  show (a.val * (256 % R.order) % R.order + byte.toNat % R.order) % R.order = _
  rw [h, ← Nat.mul_mod, ← Nat.add_mod, Nat.mul_comm]

theorem val_scalarOfBytes (bytes : Bytes) :
    (R.scalarOfBytes bytes).val = bytes.bigEndian % R.order := by
  have hfold : ∀ (a : Fin R.order) (n : Nat), a.val = n % R.order →
      (bytes.foldl (fun n byte => (n.mul (R.exponent 256)).add (R.exponent byte.toNat)) a).val =
        bytes.foldl (fun n byte => 256 * n + byte.toNat) n % R.order := by
    induction bytes with
    | nil => exact fun _ _ h => h
    | cons byte rest ih => exact fun _ _ h => ih _ _ (R.val_digit h byte)
  exact hfold _ _ rfl

/-! ## The group -/

/-- The group of residues. Elements and exponents are written as eight bytes; a random exponent is
drawn from eight bytes, of which as many bits are kept as the order has. -/
def group : CyclicGroup where
  Element := R.Element
  decEq := inferInstance
  order := R.order
  order_pos := R.order_pos
  scalarWidth := 8
  order_le := by
    have := R.modulus_lt
    simp only [limit, Nat.pow_eq] at this ⊢
    omega
  scalarOfBytes := R.scalarOfBytes
  val_scalarOfBytes := R.val_scalarOfBytes
  generator := R.residue R.generator
  identity := R.residue 1
  multiply := R.multiply
  power := R.power
  isMember := R.isMember
  decode? bytes := if bytes.length = 8 then R.element? bytes.bigEndian else none
  encode a := Bytes.toBigEndian 8 a.val
  candidateWidth := 8
  candidate bytes := bytes.littleEndian % Nat.pow 2 R.orderBits

end Residues

end TwoParty
