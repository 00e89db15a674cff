/-
A connection that outlasts the programs that run over it: two endpoints, each with the frames that
wait for it. Between runs, frames can be put into a queue or taken from it, and the sending
direction of a side can be cut and mended.
-/
import TwoParty.Program.Run
import TwoParty.Side

namespace TwoParty

structure Link where
  first : Endpoint
  second : Endpoint

namespace Link

variable {α β : Type}

def side (link : Link) : Side → Endpoint
  | .first => link.first
  | .second => link.second

def set (link : Link) : Side → Endpoint → Link
  | .first, e => { link with first := e }
  | .second, e => { link with second := e }

/-! ## Between runs -/

/-- Puts a frame at the end of a side's queue. -/
def inject (link : Link) (s : Side) (frame : Bytes) : Link :=
  link.set s ((link.side s).deliver [frame])

/-- Takes the first frame out of a side's queue. -/
def take (link : Link) (s : Side) : Option Bytes × Link :=
  let e := link.side s
  match e.inbox with
  | frame :: inbox => (some frame, link.set s { e with inbox })
  | [] => (none, link)

/-- Decides whether what a side sends from now on is taken. -/
def setLine (link : Link) (s : Side) (taken : Bool) : Link :=
  link.set s { link.side s with line := fun _ => taken }

/-! ## Runs -/

/-- Runs a program on one side while the other is idle: what it sends waits there. -/
def run (link : Link) (s : Side) (p : Program α) : Option (Outcome α × Link) :=
  (p.run (link.side s)).map fun o =>
    (o, (link.set s o.endpoint).set s.other ((link.side s.other).deliver o.sent))

/-- Runs a program on either side, at the same time. -/
def runBoth (link : Link) (p : Program α) (q : Program β) :
    Option (Program.Joint α β × Link) :=
  (p.pair q link.first link.second).map fun o => (o, ⟨o.left.endpoint, o.right.endpoint⟩)

end Link

end TwoParty
