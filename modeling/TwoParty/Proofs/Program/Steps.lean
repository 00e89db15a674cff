/-
Programs step by step, for parties that go on independently of each other. Between any two steps
frames may come in and other parties may act; nothing is said of randomness or of the line, so a
draw gives any block that it accepts and a frame may be taken or not. What a program upholds, as
long as the frames that come in are of some kind, it upholds in every order of steps.
-/
import TwoParty.Proofs.Action
import TwoParty.Proofs.Frames

namespace TwoParty

/-! ## Steps -/

/-- A program between two steps, with the frames that wait for it and those it has sent. -/
structure Position (α : Type) where
  rest : Program α
  inbox : List Bytes
  outbox : List Bytes

/-- One step. A receive finds the channel closed only if no frame waits. -/
inductive Move {α : Type} : Position α → Position α → Prop where
  | draw {length : Nat} {accept : Bytes → Bool} {next : Bytes → Program α} {block : Bytes}
    {inbox outbox : List Bytes} (hlength : block.length = length)
    (haccept : accept block = true) :
    Move ⟨.draw length accept next, inbox, outbox⟩ ⟨next block, inbox, outbox⟩
  | taken {frame : Bytes} {next : Bool → Program α} {inbox outbox : List Bytes} :
    Move ⟨.send frame next, inbox, outbox⟩ ⟨next true, inbox, outbox ++ [frame]⟩
  | refused {frame : Bytes} {next : Bool → Program α} {inbox outbox : List Bytes} :
    Move ⟨.send frame next, inbox, outbox⟩ ⟨next false, inbox, outbox⟩
  | received {frame : Bytes} {next : Option Bytes → Program α} {inbox outbox : List Bytes} :
    Move ⟨.receive next, frame :: inbox, outbox⟩ ⟨next (some frame), inbox, outbox⟩
  | closed {next : Option Bytes → Program α} {outbox : List Bytes} :
    Move ⟨.receive next, [], outbox⟩ ⟨next none, [], outbox⟩
  | noted {event : Event} {next : Program α} {inbox outbox : List Bytes} :
    Move ⟨.note event next, inbox, outbox⟩ ⟨next, inbox, outbox⟩

/-- Frames are received from the front. -/
theorem Move.inbox_suffix {α : Type} {i i' : Position α} (h : Move i i') :
    i'.inbox <:+ i.inbox := by
  cases h with
  | received => exact List.suffix_cons _ _
  | _ => exact List.suffix_rfl

/-- The run of a program at an endpoint is made of its steps. -/
theorem moves_of_run {α : Type} {p : Program α} {e : Endpoint} {o : Outcome α}
    (hrun : p.run e = some o) (outbox : List Bytes) :
    Relation.ReflTransGen Move ⟨p, e.inbox, outbox⟩
      ⟨.done o.result, o.endpoint.inbox, outbox ++ o.sent⟩ := by
  induction p generalizing e o outbox with
  | done a =>
    cases hrun
    simpa [Outcome.sent] using Relation.ReflTransGen.refl
  | draw length accept next ih =>
    simp only [Program.run] at hrun
    split at hrun
    · rename_i block source hdraw
      exact .head (.draw (Source.length_of_draw hdraw) (Source.draw_accept hdraw))
        (ih block hrun outbox)
    · cases hrun
  | send frame next ih =>
    simp only [Program.run] at hrun
    split at hrun
    · obtain ⟨o', hrun', rfl⟩ := Option.map_eq_some_iff.1 hrun
      have hrest := ih true hrun' (outbox ++ [frame])
      rw [List.append_assoc] at hrest
      exact .head .taken hrest
    · obtain ⟨o', hrun', rfl⟩ := Option.map_eq_some_iff.1 hrun
      exact .head .refused (ih false hrun' outbox)
  | receive next ih =>
    simp only [Program.run] at hrun
    split at hrun
    · rename_i frame inbox hinbox
      obtain ⟨o', hrun', rfl⟩ := Option.map_eq_some_iff.1 hrun
      rw [hinbox]
      exact .head .received (ih (some frame) hrun' outbox)
    · rename_i hinbox
      obtain ⟨o', hrun', rfl⟩ := Option.map_eq_some_iff.1 hrun
      have hrest := ih none hrun' outbox
      rw [hinbox] at hrest ⊢
      exact .head .closed hrest
  | note event next ih =>
    simp only [Program.run] at hrun
    obtain ⟨o', hrun', rfl⟩ := Option.map_eq_some_iff.1 hrun
    exact .head .noted (ih hrun' outbox)

/-! ## What is upheld -/

namespace Program

variable {α β : Type} {R S : Bytes → Prop} {Q : α → Prop}

/-- As long as all frames that come in satisfy `R`, all that are sent satisfy `S`, and if the
program ends, its result satisfies `Q`. -/
def Upholds (R S : Bytes → Prop) (Q : α → Prop) : Program α → Prop
  | done a => Q a
  | draw length accept next =>
    ∀ block, block.length = length → accept block = true → (next block).Upholds R S Q
  | send frame next => S frame ∧ ∀ taken, (next taken).Upholds R S Q
  | receive next => (∀ frame, R frame → (next (some frame)).Upholds R S Q) ∧
    (next none).Upholds R S Q
  | note _ next => next.Upholds R S Q

theorem Upholds.mono {S' : Bytes → Prop} {Q' : α → Prop} {p : Program α}
    (h : p.Upholds R S Q) (hS : ∀ frame, S frame → S' frame) (hQ : ∀ a, Q a → Q' a) :
    p.Upholds R S' Q' := by
  induction p with
  | done a => exact hQ a h
  | draw length accept next ih => exact fun block hl ha => ih block (h block hl ha)
  | send frame next ih => exact ⟨hS frame h.1, fun taken => ih taken (h.2 taken)⟩
  | receive next ih => exact ⟨fun frame hframe => ih _ (h.1 frame hframe), ih _ h.2⟩
  | note event next ih => exact ih h

theorem Upholds.bind {p : Program α} {f : α → Program β} {Q : β → Prop}
    (h : p.Upholds R S fun a => (f a).Upholds R S Q) : (p.bind f).Upholds R S Q := by
  induction p with
  | done a => exact h
  | draw length accept next ih => exact fun block hl ha => ih block (h block hl ha)
  | send frame next ih => exact ⟨h.1, fun taken => ih taken (h.2 taken)⟩
  | receive next ih => exact ⟨fun frame hframe => ih _ (h.1 frame hframe), ih _ h.2⟩
  | note event next ih => exact ih h

/-- Nothing is asked of what is sent and of the result. -/
theorem upholds_true (p : Program α) : p.Upholds R (fun _ => True) fun _ => True := by
  induction p with
  | done a => trivial
  | draw length accept next ih => exact fun block _ _ => ih block
  | send frame next ih => exact ⟨trivial, ih⟩
  | receive next ih => exact ⟨fun frame _ => ih _, ih _⟩
  | note event next ih => exact ih

/-- A step keeps to what is upheld. -/
theorem Upholds.move {i i' : Position α} (hmove : Move i i') (h : i.rest.Upholds R S Q)
    (hin : ∀ frame ∈ i.inbox, R frame) (hout : ∀ frame ∈ i.outbox, S frame) :
    i'.rest.Upholds R S Q ∧ ∀ frame ∈ i'.outbox, S frame := by
  cases hmove with
  | draw hlength haccept => exact ⟨h _ hlength haccept, hout⟩
  | taken =>
    refine ⟨h.2 true, fun frame hframe => ?_⟩
    rcases List.mem_append.1 hframe with hold | hnew
    · exact hout frame hold
    · cases List.mem_singleton.1 hnew
      exact h.1
  | refused => exact ⟨h.2 false, hout⟩
  | received => exact ⟨h.1 _ (hin _ List.mem_cons_self), hout⟩
  | closed => exact ⟨h.2, hout⟩
  | noted => exact ⟨h, hout⟩

end Program

/-! ## Attempts and actions -/

namespace Attempt

variable {α β ι : Type} {R S : Bytes → Prop}

/-- The condition on programs, of an attempt. -/
abbrev Upholds (R S : Bytes → Prop) (Q : Except ProtocolError α → Prop) (x : Attempt α) : Prop :=
  Program.Upholds R S Q x.run

namespace Upholds

variable {Q : Except ProtocolError β → Prop}

theorem bind {x : Attempt α} {f : α → Attempt β}
    (h : x.Upholds R S fun result => (onward f result).Upholds R S Q) :
    (x >>= f).Upholds R S Q := by
  unfold Upholds
  rw [run_bind]
  exact Program.Upholds.bind h

theorem note {event : Event} {f : Unit → Attempt β} (h : (f ()).Upholds R S Q) :
    (Attempt.note event >>= f).Upholds R S Q := h

/-- A frame is sent, or the channel does not take it. -/
theorem send [Wire ι] {message : ι} {f : Unit → Attempt β} (hframe : S (Wire.write message))
    (taken : (f ()).Upholds R S Q) (refused : Q (.error (.channel .closed))) :
    (Attempt.send message >>= f).Upholds R S Q := by
  refine bind ⟨hframe, fun took => ?_⟩
  cases took with
  | true => exact taken
  | false => exact refused

/-- A message is read off a frame that comes in, or the attempt fails. -/
theorem receive [Wire ι] {f : ι → Attempt β} (failed : ∀ error, Q (.error error))
    (read : ∀ frame message, R frame → Wire.decode ι frame = .ok message →
      (f message).Upholds R S Q) :
    (Attempt.receive ι >>= f).Upholds R S Q := by
  refine bind ⟨fun frame hframe => ?_, failed _⟩
  show Program.Upholds R S Q (onward f (ofFrame? ι (some frame)))
  rcases hread : ofFrame? ι (some frame) with error | message
  · exact failed error
  · obtain ⟨_, ⟨⟩, hdecode⟩ := ofFrame?_eq_ok_iff.1 hread
    exact read frame message hframe hdecode

/-- What was received passes its check, or the attempt fails. -/
theorem judge {span : Option String} {check : Except Cheating α} {f : α → Attempt β}
    (failed : ∀ error, Q (.error error))
    (passed : ∀ a, check = .ok a → (f a).Upholds R S Q) :
    (Attempt.judge span check >>= f).Upholds R S Q := by
  cases check with
  | error cause => exact failed _
  | ok a => exact passed a rfl

/-- Some exponent is drawn. -/
theorem scalar {G : CyclicGroup} {f : G.Scalar → Attempt β} (h : ∀ a, (f a).Upholds R S Q) :
    (Attempt.of G.randomScalar >>= f).Upholds R S Q :=
  fun _ _ _ => h _

theorem bytes {length : Nat} {f : Bytes → Attempt β}
    (h : ∀ block, block.length = length → (f block).Upholds R S Q) :
    (Attempt.of (Program.bytes length) >>= f).Upholds R S Q :=
  fun block hlength _ => h block hlength

end Upholds

end Attempt

namespace Action

variable {ρ α β : Type} {R S : Bytes → Prop} {x : Action ρ α} {r : ρ}

theorem Atomic.upholds {Q : Except ProtocolError α × ρ → Prop} (h : x.Atomic)
    (hrun : (x.runIn r).Upholds R S fun result => Q (settled r result)) :
    (x.run r).Upholds R S Q := by
  rw [h r]
  exact Program.Upholds.bind hrun

theorem upholds_map {f : α → β} {Q : Except ProtocolError β × ρ → Prop}
    (h : (x.run r).Upholds R S fun p => Q (p.1.map f, p.2)) :
    ((f <$> x).run r).Upholds R S Q := by
  rw [map_eq_pure_bind, run_bind]
  refine Program.Upholds.bind (h.mono (fun _ => id) ?_)
  rintro ⟨result, r'⟩ hQ
  cases result with
  | ok a => exact hQ
  | error error => exact hQ

end Action

end TwoParty
