/-
Oblivious transfer, one of two: the sender holds two byte strings and the receiver a choice bit;
the receiver learns the string of its choice and nothing of the other, and the sender does not
learn the choice.

Once, the receiver sends `g1 = g ^ y`, `h0 = g ^ α` and `h1 = g1 ^ (α + 1)`, and proves that
`(g, g1, h0, h1 / g1)` is a Diffie-Hellman tuple. Hence at most one of the pairs `(g, h0)` and
`(g1, h1)` of bases can be turned into a request that unmasks its string.
-/
import TwoParty.KeyDerivation
import TwoParty.Sigma.Knowledge

namespace TwoParty

namespace Transfer

/-! ## Parameters -/

/-- The parameters from which either party is built. -/
structure Config where
  /-- The soundness parameter of the receiver's proof. -/
  soundnessBits : UInt32 := 80
  /-- The longest string that is transferred. -/
  maxPayload : Nat := 4096
  span : Option String := none

namespace Config

def sigma (config : Config) : SigmaConfig :=
  { soundnessBits := config.soundnessBits, span := config.span }

end Config

/-- What both parties compute with: checked parameters. -/
structure Core where
  kdf : KeyDerivation
  maxPayload : Nat
  span : Option String

namespace Core

/-- Checks that the key derivation reaches the payload limit. -/
def new? (kdf : KeyDerivation) (config : Config) : Except SetupError Core :=
  if config.maxPayload ≤ kdf.maxLength then .ok ⟨kdf, config.maxPayload, config.span⟩
  else .error (.payloadLimitTooLarge config.maxPayload kdf.maxLength)

end Core

/-! ## Computations -/

/-- The elements that the receiver chooses before the first transfer. -/
structure Bases (G : CyclicGroup) where
  g1 : G.Element
  h0 : G.Element
  h1 : G.Element

namespace Bases

variable {G : CyclicGroup}

/-- The pair of bases for a choice. -/
def choose (bases : Bases G) (choice : Bool) : G.Element × G.Element :=
  if choice then (bases.g1, bases.h1) else (G.generator, bases.h0)

def statement (bases : Bases G) : Statement G 2 :=
  .diffieHellman G bases.g1 bases.h0
    (G.multiply bases.h1 (G.exponentiateInverse bases.g1 G.one))

end Bases

/-- The element `b ^ s * d ^ t`. -/
def randomize {G : CyclicGroup} (b d : G.Element) (s t : G.Scalar) : G.Element :=
  G.multiply (G.exponentiate b s) (G.exponentiate d t)

/-- The payload masked with the key that is derived from an element. Masking twice gives the
payload back. -/
def mask {G : CyclicGroup} (kdf : KeyDerivation) (seed : G.Element) (payload : Bytes) :
    Except InputError Bytes := do
  return payload.xor (← kdf.derive (G.encode seed) payload.length)

/-! ## Messages -/

structure SetupMessage where
  g1 : Bytes
  h0 : Bytes
  h1 : Bytes
deriving DecidableEq, Repr

instance : Wire SetupMessage :=
  .record (.and (.field "g1") (.and (.field "h0") (.field "h1"))) (fun m => (m.g1, m.h0, m.h1))
    fun (g1, h0, h1) => ⟨g1, h0, h1⟩

/-- The receiver's request: both bases of its choice to one random power. -/
structure RequestMessage where
  g : Bytes
  h : Bytes
deriving DecidableEq, Repr

instance : Wire RequestMessage :=
  .record (.and (.field "g_prime") (.field "h_prime")) (fun m => (m.g, m.h))
    fun (g, h) => ⟨g, h⟩

/-- The sender's answer: two randomized elements and two masked strings. -/
structure AnswerMessage where
  u0 : Bytes
  c0 : Bytes
  u1 : Bytes
  c1 : Bytes
deriving DecidableEq, Repr

instance : Wire AnswerMessage :=
  .record
    (.and (.field "u0") (.and (.field "c0") (.and (.field "u1") (.field "c1"))))
    (fun m => (m.u0, m.c0, m.u1, m.c1)) fun (u0, c0, u1, c1) => ⟨u0, c0, u1, c1⟩

end Transfer

end TwoParty
