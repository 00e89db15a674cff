/-
What a party notes while it works: a diagnostic record that the other party never sees.
-/
import TwoParty.Error

namespace TwoParty

inductive Level where
  | trace
  | debug
  | warn
deriving DecidableEq, Repr

structure Event where
  level : Level
  message : String
  fields : List (String × String)
  /-- The configured context of the role that made the record. -/
  span : Option String
deriving DecidableEq, Repr

namespace Event

/-- The record that accuses the other party. -/
def accusation (span : Option String) (cause : Cheating) : Event :=
  ⟨.warn, "cheating attempt detected", [("cheat", cause.message)], span⟩

def isWarning (event : Event) : Bool :=
  event.level == .warn

end Event

end TwoParty
