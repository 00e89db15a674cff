/-
Reproducible sources: a recorded tape, continued by the generator SplitMix64.
-/
import TwoParty.Source

namespace TwoParty

namespace SplitMix

/-- The step from one state of the generator to the next. -/
def increment : UInt64 := 0x9e3779b97f4a7c15

/-- Scrambles a state into an output. -/
def scramble (state : UInt64) : UInt64 :=
  let a := (state ^^^ (state >>> 30)) * 0xbf58476d1ce4e5b9
  let b := (a ^^^ (a >>> 27)) * 0x94d049bb133111eb
  b ^^^ (b >>> 31)

/-- The output number `n` for a seed. -/
def output (seed : UInt64) (n : Nat) : UInt64 :=
  scramble (seed + UInt64.ofNat (n + 1) * increment)

/-- The byte number `n` for a seed: outputs are read with the least significant byte first. -/
def byte (seed : UInt64) (n : Nat) : UInt8 :=
  (output seed (n / 8) >>> UInt64.ofNat (8 * (n % 8))).toUInt8

end SplitMix

/-- The source that reads a tape to its end and then the generator. A draw may reject as many
blocks as the tape can hold and some thousands more, each of which the generator rejects with a
chance of a half or less. -/
def Source.seeded (tape : Bytes) (seed : UInt64) : Source :=
  let recorded := tape.toArray
  { stream := fun i =>
      if h : i < recorded.size then recorded[i] else SplitMix.byte seed (i - recorded.size)
    used := 0
    patience := recorded.size + 4096 }

end TwoParty
