/-
Running programs. One program runs at an endpoint, which holds its randomness, the frames that wait
for it, and the fate of what it sends. Two programs run side by side over a pair of queues; since a
party sees nothing of the other but its frames, the order in which their steps are interleaved does
not matter.
-/
import TwoParty.Program
import TwoParty.Source

namespace TwoParty

/-! ## Endpoints -/

structure Endpoint where
  source : Source
  /-- The frames that have arrived and not been received. -/
  inbox : List Bytes
  /-- Whether the next send is taken, the one after it, and so on. -/
  line : Nat → Bool

namespace Endpoint

/-- The endpoint after one more attempt to send. -/
def attempted (e : Endpoint) : Endpoint :=
  { e with line := fun n => e.line (n + 1) }

/-- The endpoint after frames arrived. -/
def deliver (e : Endpoint) (frames : List Bytes) : Endpoint :=
  { e with inbox := e.inbox ++ frames }

end Endpoint

inductive Activity where
  | sent (frame : Bytes)
  /-- Tried to send a frame that the channel did not take. -/
  | refused (frame : Bytes)
  /-- Received a frame, or found the channel closed. -/
  | received (frame : Option Bytes)
  | noted (event : Event)
deriving DecidableEq, Repr

/-- How a run ended: the result, the endpoint it leaves, and what was done, in order. -/
structure Outcome (α : Type) where
  result : α
  endpoint : Endpoint
  history : List Activity

namespace Outcome

variable {α : Type}

/-- The outcome with an activity before all others. -/
def after (o : Outcome α) (first : Activity) : Outcome α :=
  { o with history := first :: o.history }

/-- The outcome of a second run that went on where the first ended. -/
def andThen {β : Type} (o : Outcome α) (next : Outcome β) : Outcome β :=
  { next with history := o.history ++ next.history }

def sent (o : Outcome α) : List Bytes :=
  o.history.filterMap fun
    | .sent frame => some frame
    | _ => none

def events (o : Outcome α) : List Event :=
  o.history.filterMap fun
    | .noted event => some event
    | _ => none

end Outcome

namespace Program

variable {α β : Type}

/-! ## One party -/

/-- Runs a program at an endpoint. When no more frames wait, the channel is closed. There is no
outcome if a draw finds no block to accept. -/
def run : Program α → Endpoint → Option (Outcome α)
  | done a, e => some ⟨a, e, []⟩
  | draw length accept next, e =>
    match e.source.draw length accept with
    | some (block, source) => (next block).run { e with source }
    | none => none
  | send frame next, e =>
    if e.line 0 then ((next true).run e.attempted).map (·.after (.sent frame))
    else ((next false).run e.attempted).map (·.after (.refused frame))
  | receive next, e =>
    match e.inbox with
    | frame :: inbox => ((next (some frame)).run { e with inbox }).map
        (·.after (.received (some frame)))
    | [] => ((next none).run e).map (·.after (.received none))
  | note event next, e => (next.run e).map (·.after (.noted event))

/-- A program that continues another runs where that one ends. -/
theorem run_bind (p : Program α) (f : α → Program β) (e : Endpoint) :
    (p.bind f).run e =
      (p.run e).bind fun o => ((f o.result).run o.endpoint).map o.andThen := by
  induction p generalizing e with
  | done a =>
    simp only [bind, run, Option.bind_some]
    cases (f a).run e <;> simp [Outcome.andThen]
  | draw length accept next ih =>
    simp only [bind, run]
    split <;> simp [ih]
  | send frame next ih =>
    simp only [bind, run]
    split <;>
      simp only [ih, Option.map_bind, Option.bind_map, Function.comp_def, Option.map_map] <;> rfl
  | receive next ih =>
    simp only [bind, run]
    split <;>
      simp only [ih, Option.map_bind, Option.bind_map, Function.comp_def, Option.map_map] <;> rfl
  | note event next ih =>
    simp only [bind, run, ih, Option.map_bind, Option.bind_map, Function.comp_def, Option.map_map]
    rfl

/-! ## Two parties -/

/-- How a run of two programs ended on either side. -/
structure Joint (α β : Type) where
  left : Outcome α
  right : Outcome β

namespace Joint

/-- The joint outcome with an activity of the left party before all its others. -/
def afterLeft (o : Joint α β) (first : Activity) : Joint α β :=
  { o with left := o.left.after first }

/-- The joint outcome with an activity of the right party before all its others. -/
def afterRight (o : Joint α β) (first : Activity) : Joint α β :=
  { o with right := o.right.after first }

end Joint

/-- Runs the right program `q` while the left one waits for a frame, until it has sent one. The
left party waits in vain if the right one ends, or if it waits too and no frame is under way; then
both find the channel closed. -/
def serve (resume : Option Bytes → Program β → Endpoint → Endpoint → Option (Joint α β)) :
    (q : Program β) → (l r : Endpoint) → Option (Joint α β)
  | done b, l, r => resume none (done b) l r
  | draw length accept next, l, r =>
    match r.source.draw length accept with
    | some (block, source) => serve resume (next block) l { r with source }
    | none => none
  | send frame next, l, r =>
    if r.line 0 then
      (resume (some frame) (next true) l r.attempted).map (·.afterRight (.sent frame))
    else (serve resume (next false) l r.attempted).map (·.afterRight (.refused frame))
  | receive next, l, r =>
    match r.inbox with
    | frame :: inbox => (serve resume (next (some frame)) l { r with inbox }).map
        (·.afterRight (.received (some frame)))
    -- both wait, so the channel is closed to both
    | [] => (resume none (next none) l r).map (·.afterRight (.received none))
  | note event next, l, r => (serve resume next l r).map (·.afterRight (.noted event))

/-- Runs two programs side by side: what one sends arrives at the other. A party that waits goes on
when a frame arrives; it finds the channel closed when the other party has ended, or waits too,
and no frame is under way. -/
def pair : (p : Program α) → (q : Program β) → (l r : Endpoint) → Option (Joint α β)
  | done a, q, l, r => (q.run r).map fun o => ⟨⟨a, l.deliver o.sent, []⟩, o⟩
  | draw length accept next, q, l, r =>
    match l.source.draw length accept with
    | some (block, source) => pair (next block) q { l with source } r
    | none => none
  | send frame next, q, l, r =>
    if l.line 0 then
      (pair (next true) q l.attempted (r.deliver [frame])).map (·.afterLeft (.sent frame))
    else (pair (next false) q l.attempted r).map (·.afterLeft (.refused frame))
  | receive next, q, l, r =>
    match l.inbox with
    | frame :: inbox => (pair (next (some frame)) q { l with inbox } r).map
        (·.afterLeft (.received (some frame)))
    | [] => serve (fun frame q l r =>
        (pair (next frame) q l r).map (·.afterLeft (.received frame))) q l r
  | note event next, q, l, r => (pair next q l r).map (·.afterLeft (.noted event))

end Program

end TwoParty
