/-
The two sides of a connection.
-/
namespace TwoParty

/-- One of two connected parties or ends. -/
inductive Side where
  | first
  | second
deriving DecidableEq, Repr

def Side.other : Side → Side
  | first => second
  | second => first

end TwoParty
