/-
The elliptic curve secp256k1, `y^2 = x^3 + 7` over a prime field of 256 bits, whose points form a
group of prime order. Points are written in the compressed form of SEC 1; the uncompressed and the
compact form are read as well.
-/
import TwoParty.Group.Basic

namespace TwoParty

namespace Curve

/-! ## The field -/

/-- The prime of the coordinate field, `2^256 - 2^32 - 977`. -/
def prime : Nat := 0xfffffffffffffffffffffffffffffffffffffffffffffffffffffffefffffc2f

/-- The prime order of the group of points. -/
def order : Nat := 0xfffffffffffffffffffffffffffffffebaaedce6af48a03bbfd25e8cd0364141

/-- A coordinate: an integer below the prime. -/
abbrev Coordinate := Fin prime

/-- The coordinate that an integer is congruent to. -/
def coordinate (n : Nat) : Coordinate :=
  ⟨n % prime, Nat.mod_lt n (by decide)⟩

def add (a b : Coordinate) : Coordinate := coordinate (a.val + b.val)

def sub (a b : Coordinate) : Coordinate := coordinate (a.val + (prime - b.val))

def mul (a b : Coordinate) : Coordinate := coordinate (a.val * b.val)

/-- Product with a small integer. -/
def scale (n : Nat) (a : Coordinate) : Coordinate := coordinate (n * a.val)

def pow (a : Coordinate) (e : Nat) : Coordinate := powerBy mul (coordinate 1) a e

/-- Inverse in the field; zero has the inverse zero. -/
def inverse (a : Coordinate) : Coordinate := pow a (prime - 2)

/-- A square root: as the prime is three modulo four, the power to a quarter of its successor is
the only candidate up to sign. -/
def sqrt? (a : Coordinate) : Option Coordinate :=
  let root := pow a ((prime + 1) / 4)
  if mul root root = a then some root else none

/-- The right-hand side of the curve's equation. -/
def cubic (x : Coordinate) : Coordinate := add (mul x (mul x x)) (coordinate 7)

/-! ## Points -/

/-- A point of the plane, or the point at infinity. -/
inductive Point where
  | infinity
  | affine (x y : Coordinate)
deriving DecidableEq, Repr

/-- A point in Jacobian coordinates: `(x, y, z)` stands for the affine point `(x / z^2, y / z^3)`,
and for the point at infinity if `z` is zero. -/
structure Jacobian where
  x : Coordinate
  y : Coordinate
  z : Coordinate

namespace Jacobian

def infinity : Jacobian := ⟨coordinate 1, coordinate 1, coordinate 0⟩

def double (P : Jacobian) : Jacobian :=
  let yy := mul P.y P.y
  let s := scale 4 (mul P.x yy)
  let m := scale 3 (mul P.x P.x)
  let x := sub (mul m m) (scale 2 s)
  let y := sub (mul m (sub s x)) (scale 8 (mul yy yy))
  ⟨x, y, scale 2 (mul P.y P.z)⟩

/-- The sum of a point and the affine point `(x, y)`. -/
def addAffine (P : Jacobian) (x y : Coordinate) : Jacobian :=
  if P.z = coordinate 0 then ⟨x, y, coordinate 1⟩
  else
    let zz := mul P.z P.z
    let h := sub (mul x zz) P.x
    let r := sub (mul y (mul zz P.z)) P.y
    -- the same first coordinate: the point itself, or its opposite
    if h = coordinate 0 then
      if r = coordinate 0 then double P else infinity
    else
      let hh := mul h h
      let hhh := mul h hh
      let v := mul P.x hh
      let x3 := sub (sub (mul r r) hhh) (scale 2 v)
      ⟨x3, sub (mul r (sub v x3)) (mul P.y hhh), mul P.z h⟩

def toPoint (P : Jacobian) : Point :=
  if P.z = coordinate 0 then .infinity
  else
    let i := inverse P.z
    let ii := mul i i
    .affine (mul P.x ii) (mul P.y (mul ii i))

/-- The multiple of the affine point `(x, y)` by the low `bits` bits of `n`. -/
def multiple (x y : Coordinate) : (bits n : Nat) → Jacobian
  | 0, _ => infinity
  | bits + 1, n =>
    let twice := double (multiple x y bits (n / 2))
    if n % 2 = 1 then addAffine twice x y else twice

end Jacobian

namespace Point

def base : Point :=
  .affine
    (coordinate 0x79be667ef9dcbbac55a06295ce870b07029bfcdb2dce28d959f2815b16f81798)
    (coordinate 0x483ada7726a3c4655da4fbfc0e1108a8fd17b448a68554199c47d08ffb10d4b8)

def onCurve : Point → Bool
  | infinity => true
  | affine x y => mul y y = cubic x

/-- The sum of two points: the third intersection of their line with the curve, reflected. -/
def sum : Point → Point → Point
  | infinity, Q => Q
  | P, infinity => P
  | affine x y, affine x' y' => (Jacobian.addAffine ⟨x, y, coordinate 1⟩ x' y').toPoint

def times : Point → Nat → Point
  | infinity, _ => infinity
  | affine x y, n => (Jacobian.multiple x y (n.log2 + 1) n).toPoint

/-! ## Written form -/

/-- The point with a given first coordinate whose second coordinate has the given parity. -/
def lift? (x : Coordinate) (odd : Bool) : Option Point := do
  let root ← sqrt? (cubic x)
  let y := if decide (root.val % 2 = 1) = odd then root else sub (coordinate 0) root
  return affine x y

/-- The compressed form: a tag with the parity of the second coordinate, then the first coordinate
in thirty-two bytes. The point at infinity is one zero byte. -/
def encode : Point → Bytes
  | infinity => [0]
  | affine x y => UInt8.ofNat (2 + y.val % 2) :: Bytes.toBigEndian 32 x.val

/-- The coordinate written in big-endian bytes; integers from the prime on are refused. -/
def readCoordinate? (bytes : Bytes) : Option Coordinate :=
  if h : bytes.bigEndian < prime then some ⟨bytes.bigEndian, h⟩ else none

/-- Reads a point of the curve: the compressed forms (tags 2 and 3), the uncompressed form (tag 4)
and the compact form (tag 5, with an even second coordinate). -/
def decode? : Bytes → Option Point
  | [] => none
  | tag :: rest => do
    if tag = 0 ∧ rest.length = 0 then
      return infinity
    else if tag = 2 ∧ rest.length = 32 then
      lift? (← readCoordinate? rest) false
    else if tag = 3 ∧ rest.length = 32 then
      lift? (← readCoordinate? rest) true
    else if tag = 5 ∧ rest.length = 32 then
      lift? (← readCoordinate? rest) false
    else if tag = 4 ∧ rest.length = 64 then
      let P := affine (← readCoordinate? (rest.take 32)) (← readCoordinate? (rest.drop 32))
      if P.onCurve then some P else none
    else none

end Point

/-! ## Exponents -/

/-- The exponent that an integer is congruent to. -/
def exponent (n : Nat) : Fin order :=
  ⟨n % order, Nat.mod_lt n (by decide)⟩

/-- The exponent of `256 ^ length`, as a product. -/
def radixPower (length : Nat) : Fin order :=
  (List.range length).foldl (fun power _ => power.mul (exponent 256)) (exponent 1)

/-- A block of at most thirty-two bytes, with zeros in front up to this number. -/
def padded (block : Bytes) : Bytes :=
  List.replicate (32 - block.length) 0 ++ block

/-- The bytes as an integer, of which one block of thirty-two after the other is added and reduced;
the last block may be shorter. -/
def scalarOfBytes (bytes : Bytes) : Fin order :=
  (bytes.blocks 32).foldl
    (fun n block => (n.mul (radixPower block.length)).add (exponent (padded block).bigEndian))
    (exponent 0)

theorem val_radixPower (length : Nat) : (radixPower length).val = Nat.pow 256 length % order := by
  unfold radixPower
  induction length with
  | zero => rfl
  | succ length ih =>
    rw [List.range_succ, List.foldl_append]
    show (Fin.val _ * (256 % order)) % order = _
    rw [ih, ← Nat.mul_mod]
    rfl

/-- A block on either side of a reduction. -/
theorem val_block {a : Fin order} {n : Nat} (h : a.val = n % order) (block : Bytes) :
    ((a.mul (radixPower block.length)).add (exponent (padded block).bigEndian)).val =
      block.foldl (fun n byte => 256 * n + byte.toNat) n % order := by
  show (a.val * (radixPower block.length).val % order + (padded block).bigEndian % order) % order =
    _
  rw [h, val_radixPower, ← Nat.mul_mod, ← Nat.add_mod, padded,
    Bytes.bigEndian_replicate_zero_append, Bytes.foldl_digit]

theorem val_scalarOfBytes (bytes : Bytes) :
    (scalarOfBytes bytes).val = bytes.bigEndian % order := by
  have hfold : ∀ (a : Fin order) (n : Nat), a.val = n % order →
      ((bytes.blocks 32).foldl (fun n block =>
        (n.mul (radixPower block.length)).add (exponent (padded block).bigEndian)) a).val =
        bytes.foldl (fun n byte => 256 * n + byte.toNat) n % order := by
    -- one block after the other, as they are cut off
    fun_induction Bytes.blocks 32 bytes with
    | case1 bytes h =>
      obtain rfl : bytes = [] := by simpa using h
      exact fun _ _ h => h
    | case2 bytes h ih =>
      intro a n ha
      rw [List.foldl_cons, ih _ _ (val_block ha _), ← List.foldl_append, List.take_append_drop]
  exact hfold _ _ rfl

/-! ## The group -/

/-- The group of the points of the curve. Exponents are written as thirty-two bytes, and a random
exponent is drawn from thirty-two. -/
def group : CyclicGroup where
  Element := Point
  decEq := inferInstance
  order := order
  order_pos := by decide
  scalarWidth := 32
  order_le := by decide
  scalarOfBytes := scalarOfBytes
  val_scalarOfBytes := val_scalarOfBytes
  generator := Point.base
  identity := Point.infinity
  multiply := Point.sum
  power := Point.times
  isMember := Point.onCurve
  decode? := Point.decode?
  encode := Point.encode
  candidateWidth := 32
  candidate := Bytes.bigEndian

end Curve

end TwoParty
