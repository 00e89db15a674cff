/-
The extendable-output functions SHAKE128 and SHAKE256: a sponge over the Keccak permutation of
1600 bits. An output of any length is a beginning of every longer one.
-/
import TwoParty.Bytes

namespace TwoParty

namespace Keccak

/-- The state: twenty-five lanes of sixty-four bits; the lane in column `x` and row `y` stands at
`x + 5 * y`. -/
abbrev Lanes := Vector UInt64 25

/-- The lane in a column and a row, both taken modulo five. -/
def lane (s : Lanes) (x y : Nat) : UInt64 :=
  s.get ⟨x % 5 + 5 * (y % 5), by omega⟩

/-- The state whose lane in column `x` and row `y` is `f x y`. -/
def build (f : Nat → Nat → UInt64) : Lanes :=
  Vector.ofFn fun i => f (i.val % 5) (i.val / 5)

def rotateLeft (w n : UInt64) : UInt64 :=
  (w <<< n) ||| (w >>> (64 - n))

def offsets : Lanes :=
  #v[0, 1, 62, 28, 27, 36, 44, 6, 55, 20, 3, 10, 43, 25, 39, 41, 45, 15, 21, 8, 18, 2, 61, 56, 14]

/-- The constants that are added to the first lane, one for each round. -/
def roundConstants : List UInt64 :=
  [0x0000000000000001, 0x0000000000008082, 0x800000000000808a, 0x8000000080008000,
   0x000000000000808b, 0x0000000080000001, 0x8000000080008081, 0x8000000000008009,
   0x000000000000008a, 0x0000000000000088, 0x0000000080008009, 0x000000008000000a,
   0x000000008000808b, 0x800000000000008b, 0x8000000000008089, 0x8000000000008003,
   0x8000000000008002, 0x8000000000000080, 0x000000000000800a, 0x800000008000000a,
   0x8000000080008081, 0x8000000000008080, 0x0000000080000001, 0x8000000080008008]

/-- Adds to each lane the parities of two neighbouring columns. -/
def mixColumns (s : Lanes) : Lanes :=
  let parity : Vector UInt64 5 := Vector.ofFn fun x =>
    lane s x 0 ^^^ lane s x 1 ^^^ lane s x 2 ^^^ lane s x 3 ^^^ lane s x 4
  let column (x : Nat) : UInt64 := parity.get ⟨x % 5, by omega⟩
  build fun x y => lane s x y ^^^ column (x + 4) ^^^ rotateLeft (column (x + 1)) 1

/-- Rotates each lane by its own offset and moves it to its new place. -/
def moveLanes (s : Lanes) : Lanes :=
  build fun x y => rotateLeft (lane s (x + 3 * y) x) (lane offsets (x + 3 * y) x)

/-- Combines each lane with the two that follow it in its row. -/
def mixRows (s : Lanes) : Lanes :=
  build fun x y => lane s x y ^^^ (~~~lane s (x + 1) y &&& lane s (x + 2) y)

def round (s : Lanes) (constant : UInt64) : Lanes :=
  let t := mixRows (moveLanes (mixColumns s))
  t.set 0 (t.get 0 ^^^ constant)

/-- The permutation: twenty-four rounds. -/
def permute (s : Lanes) : Lanes :=
  roundConstants.foldl round s

/-- Adds a block of at most two hundred bytes to the beginning of the state. -/
def addBlock (s : Lanes) (block : Bytes) : Lanes :=
  let words := ((block.blocks 8).map fun bytes => UInt64.ofNat bytes.littleEndian).toArray
  Vector.ofFn fun i => s.get i ^^^ words.getD i.val 0

/-- The state as two hundred bytes. -/
def toBytes (s : Lanes) : Bytes :=
  s.toList.flatMap fun w => Bytes.toLittleEndian 8 w.toNat

theorem length_toBytes (s : Lanes) : (toBytes s).length = 200 := by
  simp [toBytes, List.length_flatMap, List.map_const']

end Keccak

/-- An extendable-output function. -/
inductive Shake where
  | shake128
  | shake256
deriving DecidableEq, Repr

namespace Shake

/-- The number of bytes absorbed or squeezed at a time. -/
def rate : Shake → Nat
  | shake128 => 168
  | shake256 => 136

/-- The message, the bits that end it, zeros, and a last one bit: a multiple of the rate. -/
def pad (f : Shake) (message : Bytes) : Bytes :=
  let free := f.rate - message.length % f.rate
  if free = 1 then message ++ [0x9f]
  else message ++ 0x1f :: List.replicate (free - 2) 0 ++ [0x80]

/-- The state after a message was absorbed. -/
def absorb (f : Shake) (message : Bytes) : Keccak.Lanes :=
  ((f.pad message).blocks f.rate).foldl (fun s block => Keccak.permute (Keccak.addBlock s block))
    (Vector.replicate 25 0)

/-- The first `count` blocks of output. -/
def squeeze (f : Shake) : (count : Nat) → Keccak.Lanes → Bytes
  | 0, _ => []
  | count + 1, s => (Keccak.toBytes s).take f.rate ++ squeeze f count (Keccak.permute s)

/-- The first `length` bytes of the output for a message. -/
def output (f : Shake) (message : Bytes) (length : Nat) : Bytes :=
  (f.squeeze ((length + f.rate - 1) / f.rate) (f.absorb message)).take length

end Shake

end TwoParty
