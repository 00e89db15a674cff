/-
Interactive programs: what one party does in a protocol, apart from the values that come to it from
outside. A program draws random bytes, sends and receives frames, notes events, and ends.
-/
import TwoParty.Event
import TwoParty.Bytes

namespace TwoParty

/-- The behaviour of a party up to its result. -/
inductive Program (α : Type) where
  | done (result : α)
  /-- Draws blocks of `length` random bytes until one is accepted. -/
  | draw (length : Nat) (accept : Bytes → Bool) (next : Bytes → Program α)
  /-- Hands a frame to the channel, which tells whether it took it. -/
  | send (frame : Bytes) (next : Bool → Program α)
  /-- Waits for a frame; there is none if the channel fails. -/
  | receive (next : Option Bytes → Program α)
  | note (event : Event) (next : Program α)

namespace Program

variable {α β γ : Type}

/-- Continues where a program ends. -/
def bind : Program α → (α → Program β) → Program β
  | done a, f => f a
  | draw length accept next, f => draw length accept fun bytes => (next bytes).bind f
  | send frame next, f => send frame fun taken => (next taken).bind f
  | receive next, f => receive fun frame => (next frame).bind f
  | note event next, f => note event (next.bind f)

instance : Monad Program where
  pure := done
  bind := bind

theorem bind_done (p : Program α) : p.bind done = p := by
  induction p with
  | done => rfl
  | draw length accept next ih => exact congrArg (draw length accept) (funext ih)
  | send frame next ih => exact congrArg (send frame) (funext ih)
  | receive next ih => exact congrArg receive (funext ih)
  | note event next ih => exact congrArg (note event) ih

theorem bind_assoc (p : Program α) (f : α → Program β) (g : β → Program γ) :
    (p.bind f).bind g = p.bind fun a => (f a).bind g := by
  induction p with
  | done => rfl
  | draw length accept next ih => exact congrArg (draw length accept) (funext ih)
  | send frame next ih => exact congrArg (send frame) (funext ih)
  | receive next ih => exact congrArg receive (funext ih)
  | note event next ih => exact congrArg (note event) ih

instance : LawfulMonad Program :=
  LawfulMonad.mk' Program bind_done (fun _ _ => rfl) bind_assoc

/-- The next random block of `length` bytes that is accepted. -/
def sample (length : Nat) (accept : Bytes → Bool) : Program Bytes :=
  draw length accept done

def bytes (length : Nat) : Program Bytes :=
  sample length fun _ => true

def record (event : Event) : Program Unit :=
  note event (done ())

end Program

end TwoParty
