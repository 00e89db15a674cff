/-
Random exponents: blocks of random bytes are drawn until one proposes an integer below the order.
-/
import TwoParty.Group.Basic
import TwoParty.Program

namespace TwoParty

namespace CyclicGroup

variable (G : CyclicGroup)

/-- The exponent that the next accepted block proposes. -/
def sampleScalar (accept : Bytes → Bool) : Program G.Scalar := do
  let block ← Program.sample G.candidateWidth accept
  return G.scalar (G.candidate block)

def randomScalar : Program G.Scalar :=
  G.sampleScalar fun block => G.candidate block < G.order

def randomNonzeroScalar : Program G.Scalar :=
  G.sampleScalar fun block => G.candidate block < G.order && G.candidate block != 0

end CyclicGroup

end TwoParty
