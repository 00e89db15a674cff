/-
A channel inside one process: two connected ends, each of which can be dropped. Frames arrive in
the order in which they were sent, and those sent before an end was dropped still arrive.
-/
import TwoParty.Side
import TwoParty.Wire

namespace TwoParty

/-! ## Queues -/

/-- A queue from a sending half to a receiving half, which notices when the opposite half is
dropped. -/
structure Queue where
  /-- The frames that were sent and not received. -/
  frames : List Bytes := []
  senderDropped : Bool := false
  receiverDropped : Bool := false

namespace Queue

def send (q : Queue) (frame : Bytes) : Except ChannelError Unit × Queue :=
  if q.receiverDropped then (.error .closed, q)
  else (.ok (), { q with frames := q.frames ++ [frame] })

/-- Receives the oldest frame. An empty queue is closed if the sending half was dropped; otherwise
there is no result yet. -/
def receive (q : Queue) : Option (Except ChannelError Bytes) × Queue :=
  match q.frames with
  | frame :: frames => (some (.ok frame), { q with frames })
  | [] => (if q.senderDropped then some (.error .closed) else none, q)

end Queue

/-! ## Two connected ends -/

/-- The halves that an end holds, with the queues that they belong to. -/
structure DuplexEnd where
  outgoing : Queue
  incoming : Queue

def DuplexEnd.dropped (e : DuplexEnd) : Bool :=
  e.outgoing.senderDropped

/-- Two queues, each from one end to the other. -/
structure Duplex where
  fromFirst : Queue := {}
  fromSecond : Queue := {}

namespace Duplex

def side (d : Duplex) : Side → DuplexEnd
  | .first => ⟨d.fromFirst, d.fromSecond⟩
  | .second => ⟨d.fromSecond, d.fromFirst⟩

def set : Side → DuplexEnd → Duplex
  | .first, ⟨outgoing, incoming⟩ => ⟨outgoing, incoming⟩
  | .second, ⟨outgoing, incoming⟩ => ⟨incoming, outgoing⟩

/-- Sends a frame from an end; the channel is closed if the opposite end was dropped. -/
def send (d : Duplex) (s : Side) (frame : Bytes) : Except ChannelError Unit × Duplex :=
  let own := d.side s
  let (result, outgoing) := own.outgoing.send frame
  (result, set s { own with outgoing })

/-- Receives a frame at an end. With no frame under way the channel is closed if the opposite end
was dropped; otherwise there is no result yet. -/
def receive (d : Duplex) (s : Side) : Option (Except ChannelError Bytes) × Duplex :=
  let own := d.side s
  let (result, incoming) := own.incoming.receive
  (result, set s { own with incoming })

/-- Drops an end, which drops both halves that it holds. -/
def drop (d : Duplex) (s : Side) : Duplex :=
  let own := d.side s
  set s
    { outgoing := { own.outgoing with senderDropped := true }
      incoming := { own.incoming with receiverDropped := true } }

def sendMessage {α : Type} [Wire α] (d : Duplex) (s : Side) (message : α) :
    Except ChannelError Unit × Duplex :=
  d.send s (Wire.write message)

/-- Receives a message. A frame that holds none is used up. -/
def receiveMessage (α : Type) [Wire α] (d : Duplex) (s : Side) :
    Option (Except ChannelError α) × Duplex :=
  let (result, d) := d.receive s
  (result.map fun frame => frame.bind (Wire.decode α), d)

end Duplex

end TwoParty
