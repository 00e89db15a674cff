/-
One party against whatever comes to it. `Ensures` says what holds of the outcome of a run at an
endpoint, and that there is an outcome unless a draw does not end. It is taken apart from the front:
each operation of a party has one rule, which leaves a goal for every way the operation can go.
-/
import TwoParty.Proofs.Attempt
import TwoParty.Proofs.Group.Sampling

namespace TwoParty

/-! ## Programs -/

namespace Program

variable {α β : Type}

/-- The run at the endpoint has an outcome that satisfies `Q`, or it has none and `stuck` holds. -/
def Ensures (p : Program α) (e : Endpoint) (stuck : Prop) (Q : Outcome α → Prop) : Prop :=
  match p.run e with
  | none => stuck
  | some o => Q o

variable {p : Program α} {e : Endpoint} {stuck : Prop} {Q : Outcome α → Prop}

theorem Ensures.of_run {o : Outcome α} (hrun : p.run e = some o) (h : Q o) :
    p.Ensures e stuck Q := by
  unfold Ensures
  rw [hrun]
  exact h

theorem Ensures.intro (hnone : p.run e = none → stuck) (h : ∀ o, p.run e = some o → Q o) :
    p.Ensures e stuck Q := by
  unfold Ensures
  split
  · rename_i hrun; exact hnone hrun
  · rename_i o hrun; exact h o hrun

theorem Ensures.outcome (h : p.Ensures e stuck Q) {o : Outcome α} (hrun : p.run e = some o) :
    Q o := by
  unfold Ensures at h
  rwa [hrun] at h

theorem Ensures.exists_outcome (h : p.Ensures e stuck Q) (hstuck : ¬ stuck) :
    ∃ o, p.run e = some o ∧ Q o := by
  unfold Ensures at h
  rcases hrun : p.run e with _ | o
  · rw [hrun] at h; exact absurd h hstuck
  · rw [hrun] at h; exact ⟨o, rfl, h⟩

theorem Ensures.of_none (h : p.Ensures e stuck Q) (hrun : p.run e = none) : stuck := by
  unfold Ensures at h
  rwa [hrun] at h

theorem Ensures.mono {Q' : Outcome α → Prop} (h : p.Ensures e stuck Q) (hQ : ∀ o, Q o → Q' o) :
    p.Ensures e stuck Q' := by
  unfold Ensures at h ⊢
  split at h
  · exact h
  · exact hQ _ h

theorem ensures_bind {f : α → Program β} {Q : Outcome β → Prop} :
    (p.bind f).Ensures e stuck Q ↔ p.Ensures e stuck fun o =>
      (f o.result).Ensures o.endpoint stuck fun o' => Q (o.andThen o') := by
  unfold Ensures
  rw [run_bind]
  rcases p.run e with _ | o
  · exact Iff.rfl
  · simp only [Option.bind_some]
    rcases (f o.result).run o.endpoint with _ | o'
    · exact Iff.rfl
    · exact Iff.rfl

end Program

/-! ## Attempts -/

namespace Attempt

variable {α β ι : Type}

/-- The condition on runs, of an attempt. -/
abbrev Ensures (x : Attempt α) (e : Endpoint) (stuck : Prop)
    (Q : Outcome (Except ProtocolError α) → Prop) : Prop :=
  Program.Ensures x.run e stuck Q

theorem run_send [Wire ι] (message : ι) (e : Endpoint) :
    (Attempt.send message).run.run e = some (if e.line 0 = true
      then ⟨.ok (), e.attempted, [.sent (Wire.write message)]⟩
      else ⟨.error (.channel .closed), e.attempted, [.refused (Wire.write message)]⟩) := by
  show (if e.line 0 then _ else _) = _
  split
  · rfl
  · rfl

theorem run_receive [Wire ι] (e : Endpoint) :
    (Attempt.receive ι).run.run e = some ⟨ofFrame? ι e.inbox.head?,
      { e with inbox := e.inbox.tail }, [.received e.inbox.head?]⟩ := by
  obtain ⟨source, inbox, line⟩ := e
  cases inbox with
  | nil => rfl
  | cons frame inbox => rfl

variable {e : Endpoint} {stuck : Prop}

namespace Ensures

section Ends

variable {Q : Outcome (Except ProtocolError α) → Prop}

theorem pure {a : α} (h : Q ⟨.ok a, e, []⟩) : (pure a : Attempt α).Ensures e stuck Q := h

theorem fail {error : ProtocolError} (h : Q ⟨.error error, e, []⟩) :
    (fail error : Attempt α).Ensures e stuck Q := h

/-- An accusation is noted before the attempt fails. -/
theorem accuse {span : Option String} {cause : Cheating}
    (h : Q ⟨.error (.cheating cause), e, [.noted (.accusation span cause)]⟩) :
    (accuse span cause : Attempt α).Ensures e stuck Q := h

end Ends

variable {Q : Outcome (Except ProtocolError β) → Prop}

theorem bind {x : Attempt α} {f : α → Attempt β}
    (h : x.Ensures e stuck fun o => Program.Ensures (onward f o.result) o.endpoint stuck fun o' =>
      Q (o.andThen o')) : (x >>= f).Ensures e stuck Q := by
  unfold Ensures
  rw [run_bind]
  exact Program.ensures_bind.2 h

/-- An attempt is used through what it ensures: the rest follows where it succeeds. -/
theorem call {x : Attempt α} {f : α → Attempt β} {P : Outcome (Except ProtocolError α) → Prop}
    (h : x.Ensures e stuck P)
    (failed : ∀ o error, P o → o.result = .error error →
      Q (o.andThen ⟨.error error, o.endpoint, []⟩))
    (done : ∀ o a, P o → o.result = .ok a →
      (f a).Ensures o.endpoint stuck fun o' => Q (o.andThen o')) :
    (x >>= f).Ensures e stuck Q := by
  refine bind (Program.Ensures.mono h fun o ho => ?_)
  rcases hresult : o.result with error | a
  · exact failed o error ho hresult
  · exact done o a ho hresult

theorem note {event : Event} {f : Unit → Attempt β}
    (h : (f ()).Ensures e stuck fun o => Q (o.after (.noted event))) :
    (Attempt.note event >>= f).Ensures e stuck Q :=
  bind h

/-- A frame is sent, or the channel does not take it. -/
theorem send [Wire ι] {message : ι} {f : Unit → Attempt β}
    (taken : e.line 0 = true → (f ()).Ensures e.attempted stuck fun o =>
      Q (o.after (.sent (Wire.write message))))
    (refused : e.line 0 = false →
      Q ⟨.error (.channel .closed), e.attempted, [.refused (Wire.write message)]⟩) :
    (Attempt.send message >>= f).Ensures e stuck Q := by
  refine bind (Program.Ensures.of_run (run_send message e) ?_)
  split
  · rename_i hline; exact taken hline
  · rename_i hline; exact refused (Bool.eq_false_iff.2 hline)

/-- A message is read off the next frame, or there is no frame, or it ends too early. -/
theorem receive [Wire ι] {frame? : Option Bytes} (hframe : e.inbox.head? = frame?)
    {f : ι → Attempt β}
    (unread : ∀ error, ofFrame? ι frame? = .error error →
      Q ⟨.error error, { e with inbox := e.inbox.tail }, [.received frame?]⟩)
    (read : ∀ message, ofFrame? ι frame? = .ok message →
      (f message).Ensures { e with inbox := e.inbox.tail } stuck fun o =>
        Q (o.after (.received frame?))) :
    (Attempt.receive ι >>= f).Ensures e stuck Q := by
  subst hframe
  refine bind (Program.Ensures.of_run (run_receive e) ?_)
  rcases hread : ofFrame? ι e.inbox.head? with error | message
  · exact unread error hread
  · exact read message hread

/-- What was received passes its check, or the other party is accused. -/
theorem judge {span : Option String} {check : Except Cheating α} {f : α → Attempt β}
    (failed : ∀ cause, check = .error cause →
      Q ⟨.error (.cheating cause), e, [.noted (.accusation span cause)]⟩)
    (passed : ∀ a, check = .ok a → (f a).Ensures e stuck Q) :
    (Attempt.judge span check >>= f).Ensures e stuck Q := by
  cases check with
  | error cause => exact failed cause rfl
  | ok a => exact passed a rfl

/-- An exponent is drawn, unless the draw does not end. -/
theorem scalar {G : CyclicGroup} {f : G.Scalar → Attempt β}
    (endless : G.nextScalar e.source = none → stuck)
    (drawn : ∀ a source, G.nextScalar e.source = some (a, source) →
      (f a).Ensures { e with source } stuck Q) :
    (Attempt.of G.randomScalar >>= f).Ensures e stuck Q := by
  show Program.Ensures _ _ _ _
  unfold Program.Ensures
  rw [run_of_bind, CyclicGroup.run_randomScalar_bind]
  rcases hdraw : G.nextScalar e.source with _ | ⟨a, source⟩
  · exact endless hdraw
  · exact drawn a source hdraw

/-- Bytes are drawn. -/
theorem bytes {length : Nat} {f : Bytes → Attempt β}
    (h : (f (e.source.peek length)).Ensures { e with source := e.source.advance length } stuck Q) :
    (Attempt.of (Program.bytes length) >>= f).Ensures e stuck Q := h

end Ensures

end Attempt

end TwoParty
