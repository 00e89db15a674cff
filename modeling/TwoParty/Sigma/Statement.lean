/-
Statements about a secret exponent, the witness: a few equations `base ^ w = image` that it
satisfies all at once. Knowledge of a discrete logarithm is one equation, a Diffie-Hellman tuple
two. The maps of a proof act on each equation alone.
-/
import TwoParty.Attempt
import TwoParty.Group.Basic

namespace TwoParty

/-- The equation `base ^ w = image` for a witness `w`. -/
structure Equation (G : CyclicGroup) where
  base : G.Element
  image : G.Element

/-- A statement of `k` equations for one witness. -/
abbrev Statement (G : CyclicGroup) (k : Nat) := Vector (Equation G) k

/-- The first message of a proof: one element for each equation. -/
abbrev Announcement (G : CyclicGroup) (k : Nat) := Vector G.Element k

namespace Statement

variable {G : CyclicGroup} {k : Nat}

/-! ## The two relations -/

/-- The witness is the logarithm of `h`. -/
def logarithm (G : CyclicGroup) (h : G.Element) : Statement G 1 :=
  #v[⟨G.generator, h⟩]

/-- The witness takes the generator to `u` and `h` to `v`. -/
def diffieHellman (G : CyclicGroup) (h u v : G.Element) : Statement G 2 :=
  #v[⟨G.generator, u⟩, ⟨h, v⟩]

/-! ## The maps of a proof -/

/-- Whether `w` satisfies all equations. -/
def holds (S : Statement G k) (w : G.Scalar) : Bool :=
  S.all fun q => G.exponentiate q.base w = q.image

/-- Whether all elements belong to the group. -/
def isValid (S : Statement G k) : Bool :=
  S.all fun q => G.isMember q.base && G.isMember q.image

/-- The announcement for the randomness `r`. -/
def commit (S : Statement G k) (r : G.Scalar) : Announcement G k :=
  S.map fun q => G.exponentiate q.base r

/-- Whether `base ^ z = a * image ^ e` in every place. -/
def check (S : Statement G k) (a : Announcement G k) (e z : G.Scalar) : Bool :=
  (S.zip a).all fun (q, a) =>
    G.exponentiate q.base z = G.multiply a (G.exponentiate q.image e)

/-- The announcement that makes a challenge and a response fit: `base ^ z * image ^ (-e)`. -/
def backSolve (S : Statement G k) (e z : G.Scalar) : Announcement G k :=
  S.map fun q => G.multiply (G.exponentiate q.base z) (G.exponentiateInverse q.image e)

end Statement

namespace Announcement

variable {G : CyclicGroup} {k : Nat}

/-- The announcement of a list of elements, if there is one for each equation. -/
def ofList? (G : CyclicGroup) (k : Nat) (elements : List G.Element) : Option (Announcement G k) :=
  if h : elements.length = k then some ⟨elements.toArray, by simp [h]⟩ else none

/-- Whether all elements belong to the group. -/
def isValid (a : Announcement G k) : Bool :=
  a.all G.isMember

end Announcement

/-! ## Messages -/

/-- The announcement as it is sent: encoded elements. -/
structure AnnouncementMessage where
  elements : List Bytes
deriving DecidableEq, Repr

namespace AnnouncementMessage

instance : Wire AnnouncementMessage :=
  .record (.field "elements") elements mk

def encode {G : CyclicGroup} {k : Nat} (a : Announcement G k) : AnnouncementMessage :=
  ⟨a.toList.map G.encode⟩

/-- Reads an announcement of `k` members of the group. -/
def decode (G : CyclicGroup) (k : Nat) (message : AnnouncementMessage) :
    Except Cheating (Announcement G k) :=
  let wrongLength := Cheating.announcementLength k message.elements.length
  if message.elements.length = k then do
    let elements ← message.elements.mapM (G.decodeMember "a")
    match Announcement.ofList? G k elements with
    | some a => .ok a
    | none => .error wrongLength
  else .error wrongLength

end AnnouncementMessage

/-- The response as it is sent: an encoded exponent. -/
structure ResponseMessage where
  z : Bytes
deriving DecidableEq, Repr

namespace ResponseMessage

instance : Wire ResponseMessage := Wire.wrap z mk

def encode {G : CyclicGroup} (z : G.Scalar) : ResponseMessage :=
  ⟨G.encodeScalar z⟩

def decode (G : CyclicGroup) (message : ResponseMessage) : Except Cheating G.Scalar :=
  G.decodeReceivedScalar "z" message.z

end ResponseMessage

end TwoParty
