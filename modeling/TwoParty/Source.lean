/-
Sources of randomness: an endless stream of bytes that is read from front to back. Drawing with a
condition reads block after block until one satisfies it.
-/
import TwoParty.Bytes

namespace TwoParty

/-- A stream of random bytes and how much of it has been read. -/
structure Source where
  stream : Nat → UInt8
  used : Nat
  /-- How many blocks in a row a draw may reject before it gives up. -/
  patience : Nat

namespace Source

def peek (source : Source) (length : Nat) : Bytes :=
  (List.range length).map fun i => source.stream (source.used + i)

/-- The source after `length` more bytes were read. -/
def advance (source : Source) (length : Nat) : Source :=
  { source with used := source.used + length }

/-- Reads blocks of `length` bytes, `tries` at most, up to the first that is accepted. -/
def search (length : Nat) (accept : Bytes → Bool) : (tries : Nat) → Source → Option (Bytes × Source)
  | 0, _ => none
  | tries + 1, source =>
    let block := source.peek length
    if accept block then some (block, source.advance length)
    else search length accept tries (source.advance length)

/-- The first accepted block of `length` bytes, and the source after it. -/
def draw (source : Source) (length : Nat) (accept : Bytes → Bool) : Option (Bytes × Source) :=
  search length accept (source.patience + 1) source

end Source

end TwoParty
