/-
Cyclic groups as the protocols use them: elements are opaque, exponents are integers below the
order, and both have canonical encodings as bytes.
-/
import TwoParty.Bytes
import TwoParty.Error

namespace TwoParty

/-! ## Repeated squaring -/

/-- The power of `base` to the low `bits` bits of `e`: each bit squares, a one bit multiplies. -/
def powerBits {α : Type} (multiply : α → α → α) (one base : α) : (bits e : Nat) → α
  | 0, _ => one
  | bits + 1, e =>
    let half := powerBits multiply one base bits (e / 2)
    let square := multiply half half
    if e % 2 = 1 then multiply square base else square

/-- The power of `base` to `e` by repeated squaring. -/
def powerBy {α : Type} (multiply : α → α → α) (one base : α) (e : Nat) : α :=
  powerBits multiply one base (e.log2 + 1) e

/-! ## Groups -/

/-- A cyclic group inside an ambient set of elements. The elements of the group proper are those
that `isMember` admits; the others can be written down and computed with, but no protocol may
accept them. -/
structure CyclicGroup where
  Element : Type
  decEq : DecidableEq Element
  order : Nat
  order_pos : 0 < order
  /-- The length of an encoded exponent. -/
  scalarWidth : Nat
  order_le : order ≤ Nat.pow 256 scalarWidth
  /-- The exponent congruent to the big-endian integer of the bytes. -/
  scalarOfBytes : Bytes → Fin order
  val_scalarOfBytes (bytes : Bytes) : (scalarOfBytes bytes).val = bytes.bigEndian % order
  generator : Element
  identity : Element
  multiply : Element → Element → Element
  power : Element → Nat → Element
  /-- Whether an ambient element belongs to the group. -/
  isMember : Element → Bool
  /-- The ambient element that the bytes describe. -/
  decode? : Bytes → Option Element
  encode : Element → Bytes
  /-- How many random bytes make one candidate for a random exponent. -/
  candidateWidth : Nat
  /-- The integer that a block of random bytes proposes; one below the order is accepted. -/
  candidate : Bytes → Nat

namespace CyclicGroup

variable (G : CyclicGroup)

instance : DecidableEq G.Element := G.decEq

/-- An exponent: an integer below the group order. -/
abbrev Scalar := Fin G.order

/-! ## Exponents -/

/-- The exponent that an integer is congruent to. -/
def scalar (n : Nat) : G.Scalar :=
  ⟨n % G.order, Nat.mod_lt n G.order_pos⟩

def zero : G.Scalar := ⟨0, G.order_pos⟩

def one : G.Scalar := G.scalar 1

def add (a b : G.Scalar) : G.Scalar := G.scalar (a.val + b.val)

def mul (a b : G.Scalar) : G.Scalar := G.scalar (a.val * b.val)

def neg (a : G.Scalar) : G.Scalar := G.scalar (G.order - a.val)

/-- The canonical encoding of an exponent: big-endian, of fixed width. -/
def encodeScalar (a : G.Scalar) : Bytes :=
  Bytes.toBigEndian G.scalarWidth a.val

/-- Reads a canonical encoding of an exponent. -/
def decodeScalar? (bytes : Bytes) : Option G.Scalar :=
  if bytes.length = G.scalarWidth then
    if h : bytes.bigEndian < G.order then some ⟨bytes.bigEndian, h⟩ else none
  else none

/-- Reads a big-endian integer of any length as an exponent; integers from the order on are
refused. -/
def exponentOfBytes? (bytes : Bytes) : Option G.Scalar :=
  let digits := bytes.significant
  if digits.length ≤ G.scalarWidth then
    G.decodeScalar? (List.replicate (G.scalarWidth - digits.length) 0 ++ digits)
  else none

/-! ## Powers -/

def exponentiate (base : G.Element) (e : G.Scalar) : G.Element :=
  G.power base e.val

def exponentiateGenerator (e : G.Scalar) : G.Element :=
  G.exponentiate G.generator e

def exponentiateInverse (base : G.Element) (e : G.Scalar) : G.Element :=
  G.exponentiate base (G.neg e)

/-! ## Checked decoding -/

/-- Reads an element of the group proper, which an error calls `name`. -/
def decodeMember (name : String) (bytes : Bytes) : Except Cheating G.Element :=
  match G.decode? bytes with
  | some element => if G.isMember element then .ok element else .error (.notMember name)
  | none => .error (.notMember name)

/-- Reads an element of the group other than the identity. -/
def decodeNontrivial (name : String) (bytes : Bytes) : Except Cheating G.Element := do
  let element ← G.decodeMember name bytes
  if element = G.identity then .error (.identityElement name) else return element

/-- Reads an exponent in canonical form. -/
def decodeReceivedScalar (name : String) (bytes : Bytes) : Except Cheating G.Scalar :=
  match G.decodeScalar? bytes with
  | some a => .ok a
  | none => .error (.invalidScalar name)

end CyclicGroup

end TwoParty
