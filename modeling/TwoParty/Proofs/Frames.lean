/-
What a party takes from the next frame. It reads a message off the frame and checks it; then either
the frame conveys some content or it is flawed: missing, cut short, or with a message that fails the
check. Each flaw is one error, and a frame with a flaw conveys nothing.
-/
import TwoParty.Proofs.Ensures

namespace TwoParty

/-! ## Checks in a row -/

section Checks

variable {ε ε' α β : Type} {x : Except ε α} {f : α → Except ε β} {g : ε → ε'}

theorem bind_eq_ok_iff {b : β} : x >>= f = .ok b ↔ ∃ a, x = .ok a ∧ f a = .ok b := by
  rcases x with error | a
  · exact iff_of_false (by rintro ⟨⟩) (by rintro ⟨a, ⟨⟩, -⟩)
  · exact ⟨fun h => ⟨a, rfl, h⟩, fun ⟨_, ha, h⟩ => by cases ha; exact h⟩

theorem bind_eq_error_iff {error : ε} :
    x >>= f = .error error ↔ x = .error error ∨ ∃ a, x = .ok a ∧ f a = .error error := by
  rcases x with error' | a
  · refine ⟨fun h => .inl (by cases h; rfl), ?_⟩
    rintro (h | ⟨a, ⟨⟩, -⟩)
    cases h; rfl
  · refine ⟨fun h => .inr ⟨a, rfl, h⟩, ?_⟩
    rintro (⟨⟨⟩⟩ | ⟨_, ha, h⟩)
    cases ha; exact h

theorem mapError_eq_ok_iff {a : α} : x.mapError g = .ok a ↔ x = .ok a := by
  cases x <;> simp [Except.mapError]

theorem mapError_eq_error_iff {error : ε'} :
    x.mapError g = .error error ↔ ∃ cause, x = .error cause ∧ g cause = error := by
  cases x <;> simp [Except.mapError]

end Checks

/-! ## Contents and flaws -/

section Contents

variable {ι β : Type} [Wire ι]

/-- The frame begins with a message of the type, and its content is `b`. -/
def Conveys (content : ι → β → Prop) (frame? : Option Bytes) (b : β) : Prop :=
  ∃ frame message, frame? = some frame ∧ Wire.decode ι frame = .ok message ∧ content message b

/-- The frame conveys no content, which is an error. -/
inductive Flawed (fault : ι → Cheating → Prop) : Option Bytes → ProtocolError → Prop where
  | missing : Flawed fault none (.channel .closed)
  | cutShort {frame : Bytes} {cause : ChannelError} (hread : Wire.decode ι frame = .error cause) :
    Flawed fault (some frame) (.channel cause)
  | malformed {frame : Bytes} {message : ι} {cause : Cheating}
    (hread : Wire.decode ι frame = .ok message) (hfault : fault message cause) :
    Flawed fault (some frame) (.cheating cause)

end Contents

namespace Attempt

variable {ι α β : Type} [Wire ι] {check : ι → Except Cheating α} {frame? : Option Bytes}
  {error : ProtocolError}

theorem ofFrame?_eq_ok_iff {message : ι} : ofFrame? ι frame? = .ok message ↔
    ∃ frame, frame? = some frame ∧ Wire.decode ι frame = .ok message := by
  rcases frame? with _ | frame
  · simp [ofFrame?]
  · simp [ofFrame?, mapError_eq_ok_iff]

theorem ofFrame?_eq_error_iff : ofFrame? ι frame? = .error error ↔
    frame? = none ∧ .channel .closed = error ∨
      ∃ frame cause, frame? = some frame ∧ Wire.decode ι frame = .error cause ∧
        .channel cause = error := by
  rcases frame? with _ | frame
  · simp [ofFrame?]
  · simp [ofFrame?, mapError_eq_error_iff]

/-- What a check makes of the message that a frame begins with. -/
def heard (check : ι → Except Cheating α) (frame? : Option Bytes) : Except ProtocolError α := do
  let message ← ofFrame? ι frame?
  (check message).mapError .cheating

/-- What is heard in a frame that holds a message depends on the check alone. -/
theorem heard_eq {frame : Bytes} {message : ι} (hframe : frame? = some frame)
    (hread : Wire.decode ι frame = .ok message) :
    heard check frame? = (check message).mapError .cheating := by
  unfold heard
  rw [ofFrame?_eq_ok_iff.2 ⟨frame, hframe, hread⟩]
  rfl

theorem heard_eq_ok_iff {content : ι → α → Prop}
    (hcheck : ∀ message a, check message = .ok a ↔ content message a) {a : α} :
    heard check frame? = .ok a ↔ Conveys content frame? a := by
  unfold heard Conveys
  simp only [bind_eq_ok_iff, mapError_eq_ok_iff, ofFrame?_eq_ok_iff, hcheck]
  constructor
  · rintro ⟨message, ⟨frame, hframe, hread⟩, hcontent⟩
    exact ⟨frame, message, hframe, hread, hcontent⟩
  · rintro ⟨frame, message, hframe, hread, hcontent⟩
    exact ⟨message, ⟨frame, hframe, hread⟩, hcontent⟩

theorem heard_eq_error_iff {fault : ι → Cheating → Prop}
    (hcheck : ∀ message cause, check message = .error cause ↔ fault message cause) :
    heard check frame? = .error error ↔ Flawed fault frame? error := by
  unfold heard
  simp only [bind_eq_error_iff, mapError_eq_error_iff, ofFrame?_eq_error_iff, ofFrame?_eq_ok_iff,
    hcheck]
  constructor
  · rintro ((⟨rfl, rfl⟩ | ⟨frame, cause, rfl, hread, rfl⟩) |
      ⟨message, ⟨frame, rfl, hread⟩, cause, hfault, rfl⟩)
    · exact .missing
    · exact .cutShort hread
    · exact .malformed hread hfault
  · rintro (_ | hread | ⟨hread, hfault⟩)
    · exact .inl (.inl ⟨rfl, rfl⟩)
    · exact .inl (.inr ⟨_, _, rfl, hread, rfl⟩)
    · exact .inr ⟨_, ⟨_, rfl, hread⟩, _, hfault, rfl⟩

/-! ## Hearing in a run -/

/-- What is noted of an error: an accusation, if the other party is to blame. -/
def accusations (span : Option String) : ProtocolError → List Activity
  | .cheating cause => [.noted (.accusation span cause)]
  | _ => []

variable {e : Endpoint} {stuck : Prop} {Q : Outcome (Except ProtocolError β) → Prop}

/-- A message is received and judged: the attempt goes on with what is heard, or fails. -/
theorem Ensures.hear {span : Option String} {f : α → Attempt β} (hframe : e.inbox.head? = frame?)
    (failed : ∀ error, heard check frame? = .error error → Q ⟨.error error,
      { e with inbox := e.inbox.tail }, .received frame? :: accusations span error⟩)
    (passed : ∀ a, heard check frame? = .ok a →
      (f a).Ensures { e with inbox := e.inbox.tail } stuck fun o =>
        Q (o.after (.received frame?))) :
    Ensures (do f (← Attempt.judge span (check (← Attempt.receive ι)))) e stuck Q := by
  refine .receive hframe (fun error hread => ?_) (fun message hread => ?_)
  · obtain ⟨cause, rfl⟩ : ∃ cause, error = .channel cause := by
      rcases ofFrame?_eq_error_iff.1 hread with ⟨-, rfl⟩ | ⟨-, cause, -, -, rfl⟩
      · exact ⟨_, rfl⟩
      · exact ⟨_, rfl⟩
    exact failed _ (bind_eq_error_iff.2 (.inl hread))
  · refine .judge (fun cause hcheck => ?_) (fun a hcheck => ?_)
    · exact failed _ (bind_eq_error_iff.2 (.inr ⟨message, hread, mapError_eq_error_iff.2
        ⟨cause, hcheck, rfl⟩⟩))
    · exact passed a (bind_eq_ok_iff.2 ⟨message, hread, mapError_eq_ok_iff.2 hcheck⟩)

/-! ## Traffic -/

section Traffic

variable {γ : Type}

/-- The condition on runs, of the traffic and the result of an attempt. -/
def OnChannel (x : Attempt γ) (source : Source) (inbox : List Bytes) (line : Nat → Bool)
    (stuck : Prop) (R : List Activity → Except ProtocolError γ → Prop) : Prop :=
  x.Ensures ⟨source, inbox, line⟩ stuck fun o => R o.traffic o.result

variable {source : Source} {inbox : List Bytes} {line : Nat → Bool}
  {R : List Activity → Except ProtocolError β → Prop} {span : Option String}

theorem traffic_accusations (error : ProtocolError) (first : Activity)
    (hfirst : first.isTraffic = true) :
    (first :: accusations span error).filter Activity.isTraffic = [first] := by
  rw [List.filter_cons_of_pos hfirst]
  cases error <;> rfl

theorem traffic_noted (events : List Event) (rest : List Activity) :
    (events.map Activity.noted ++ rest).filter Activity.isTraffic =
      rest.filter Activity.isTraffic := by
  simp [List.filter_map, Function.comp_def, Activity.isTraffic]

namespace OnChannel

theorem pure {b : β} (h : R [] (.ok b)) :
    (Pure.pure b : Attempt β).OnChannel source inbox line stuck R := h

theorem accuse {cause : Cheating} (h : R [] (.error (.cheating cause))) :
    (Attempt.accuse span cause : Attempt β).OnChannel source inbox line stuck R := h

theorem note {event : Event} {f : Unit → Attempt β}
    (h : (f ()).OnChannel source inbox line stuck R) :
    (Attempt.note event >>= f).OnChannel source inbox line stuck R :=
  Ensures.note h

theorem scalar {G : CyclicGroup} {f : G.Scalar → Attempt β}
    (endless : G.nextScalar source = none → stuck)
    (drawn : ∀ a source', G.nextScalar source = some (a, source') →
      (f a).OnChannel source' inbox line stuck R) :
    (Attempt.of G.randomScalar >>= f).OnChannel source inbox line stuck R :=
  Ensures.scalar endless drawn

/-- What an attempt does that keeps to itself is no traffic. -/
theorem yields {x : Attempt γ} {c : γ} {source' : Source} {f : γ → Attempt β}
    (h : x.Yields source (c, source')) (h' : (f c).OnChannel source' inbox line stuck R) :
    (x >>= f).OnChannel source inbox line stuck R := by
  obtain ⟨events, hrun⟩ := h inbox line
  refine Ensures.bind (Program.Ensures.of_run hrun (Program.Ensures.mono h' fun o ho => ?_))
  show R ((events.map Activity.noted ++ o.history).filter Activity.isTraffic) o.result
  rw [traffic_noted]
  exact ho

theorem ends {x : Attempt β} {b : β} {source' : Source} (h : x.Yields source (b, source'))
    (h' : R [] (.ok b)) : x.OnChannel source inbox line stuck R := by
  have hpure : (x >>= Pure.pure).OnChannel source inbox line stuck R := yields h (pure h')
  rwa [bind_pure] at hpure

theorem send {message : ι} {f : Unit → Attempt β}
    (taken : line 0 = true → (f ()).OnChannel source inbox (fun n => line (n + 1)) stuck
      fun traffic => R (.sent (Wire.write message) :: traffic))
    (refused : line 0 = false →
      R [.refused (Wire.write message)] (.error (.channel .closed))) :
    (Attempt.send message >>= f).OnChannel source inbox line stuck R :=
  Ensures.send taken refused

theorem hear {f : α → Attempt β} (hframe : inbox.head? = frame?)
    (failed : ∀ error, heard check frame? = .error error →
      R [.received frame?] (.error error))
    (passed : ∀ a, heard check frame? = .ok a → (f a).OnChannel source inbox.tail line stuck
      fun traffic => R (.received frame? :: traffic)) :
    OnChannel (do f (← Attempt.judge span (check (← Attempt.receive ι)))) source inbox line stuck
      R := by
  refine Ensures.hear hframe (fun error hheard => ?_) passed
  have h := failed error hheard
  rwa [← traffic_accusations error _ rfl] at h

theorem judge {x : Except Cheating α} {f : α → Attempt β}
    (failed : ∀ cause, x = .error cause → R [] (.error (.cheating cause)))
    (passed : ∀ a, x = .ok a → (f a).OnChannel source inbox line stuck R) :
    (Attempt.judge span x >>= f).OnChannel source inbox line stuck R :=
  Ensures.judge failed passed

end OnChannel

end Traffic

/-! ## Checks as one -/

/-- Two checks in a row are one. -/
theorem judge_judge {γ : Type} (span : Option String) (x : Except Cheating α)
    (g : α → Except Cheating γ) (f : γ → Attempt β) :
    (judge span x >>= fun a => judge span (g a) >>= f) = judge span (x >>= g) >>= f := by
  cases x <;> rfl

/-- Two checks of one message are one, of which both values are had. -/
theorem judge_pair {γ : Type} (span : Option String) (x : Except Cheating α)
    (y : Except Cheating γ) (f : α → γ → Attempt β) :
    (judge span x >>= fun a => judge span y >>= fun c => f a c) =
      judge span (do return (← x, ← y)) >>= fun p => f p.1 p.2 := by
  cases x
  · rfl
  · cases y <;> rfl

end Attempt

end TwoParty
