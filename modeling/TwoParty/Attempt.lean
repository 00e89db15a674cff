/-
Programs that may fail: an attempt ends with a result or with a protocol error, and an action also
changes the state of a role. Sending and receiving here speak in messages, not in frames.
-/
import TwoParty.Program
import TwoParty.Wire

namespace TwoParty

/-- A program that ends with a result or an error. -/
abbrev Attempt := ExceptT ProtocolError Program

/-- An attempt of a role with state `ρ`. A failed action keeps what it has changed so far. -/
abbrev Action (ρ : Type) := ExceptT ProtocolError (StateT ρ Program)

namespace Attempt

variable {α : Type}

def fail (error : ProtocolError) : Attempt α :=
  throw error

def note (event : Event) : Attempt Unit :=
  ExceptT.lift (Program.record event)

/-- Runs a program that cannot fail. -/
def of (program : Program α) : Attempt α :=
  ExceptT.lift program

/-- Accuses the other party and fails. -/
def accuse (span : Option String) (cause : Cheating) : Attempt α := do
  note (.accusation span cause)
  fail (.cheating cause)

/-- The value of a check, or the accusation that goes with its failure. -/
def judge (span : Option String) : Except Cheating α → Attempt α
  | .ok a => pure a
  | .error cause => accuse span cause

/-- The value of a check of the caller's arguments, or its error. -/
def require : Except InputError α → Attempt α
  | .ok a => pure a
  | .error cause => fail (.input cause)

/-- The value of a check of the caller's parameters, or its error. -/
def configure : Except SetupError α → Attempt α
  | .ok a => pure a
  | .error cause => fail (.setup cause)

/-! ## Messages -/

def send [Wire α] (message : α) : Attempt Unit :=
  ExceptT.mk <| Program.send (Wire.write message) fun taken =>
    .done (if taken then .ok () else .error (.channel .closed))

/-- Reads a message from a frame, or from the lack of one. -/
def ofFrame? (α : Type) [Wire α] : Option Bytes → Except ProtocolError α
  | some frame => (Wire.decode α frame).mapError .channel
  | none => .error (.channel .closed)

def receive (α : Type) [Wire α] : Attempt α :=
  ExceptT.mk <| Program.receive fun frame? => .done (ofFrame? α frame?)

end Attempt

namespace Action

variable {ρ σ α : Type}

/-- An attempt that leaves the state alone. -/
def of (attempt : Attempt α) : Action ρ α :=
  ExceptT.mk (StateT.lift attempt.run)

def state : Action ρ ρ :=
  ExceptT.mk fun s => pure (.ok s, s)

def put (s : ρ) : Action ρ Unit :=
  ExceptT.mk fun _ => pure (.ok (), s)

/-- Runs an action from a state; the result comes with the state it leaves. -/
def run (action : Action ρ α) (s : ρ) : Program (Except ProtocolError α × ρ) :=
  StateT.run (ExceptT.run action) s

/-- Runs an action inside an attempt that does not need the state if the action fails. -/
def runIn (action : Action ρ α) (s : ρ) : Attempt (α × ρ) :=
  ExceptT.mk do
    let (result, s) ← action.run s
    return result.map fun a => (a, s)

/-- An action on a part of a larger state. -/
def within (part : σ → ρ) (replace : σ → ρ → σ) (action : Action ρ α) : Action σ α :=
  ExceptT.mk fun s => do
    let (result, r) ← action.run (part s)
    return (result, replace s r)

end Action

end TwoParty
