/-
What a party warns of. Whoever detects that the other party cheats says so, under the configured
span and with the text of the error that ends the operation, and nothing else is warned of but a
proof that does not convince. `Tells` goes through an operation step by step. It carries along
whether a warning may have been given already, since from there on the operation may only fail for
cheating or deny what it was asked.
-/
import TwoParty.Proofs.Action

namespace TwoParty

/-! ## Events -/

/-- The event is a warning under the span and gives the text of the cause, either its own or that
which it has as the error of an operation. -/
structure Event.Reports (event : Event) (span : Option String) (cause : Cheating) : Prop where
  level : event.level = .warn
  span : event.span = span
  text : ∃ field ∈ event.fields,
    field.2 = cause.message ∨ field.2 = (ProtocolError.cheating cause).message

theorem Event.reports_accusation (span : Option String) (cause : Cheating) :
    (accusation span cause).Reports span cause :=
  ⟨rfl, rfl, _, .head _, .inl rfl⟩

/-- Some event is a warning. -/
def Warns (events : List Event) : Prop :=
  ∃ event ∈ events, event.isWarning = true

theorem warns_append {first second : List Event} :
    Warns (first ++ second) ↔ Warns first ∨ Warns second := by
  simp only [Warns, List.mem_append, or_and_right, exists_or]

theorem not_warns_nil : ¬ Warns [] := nofun

theorem Outcome.events_andThen {α β : Type} (o : Outcome α) (next : Outcome β) :
    (o.andThen next).events = o.events ++ next.events :=
  List.filterMap_append

/-- The end of a run adds no event. -/
theorem Outcome.events_andThen_done {α β : Type} (o : Outcome α) (b : β) (e : Endpoint) :
    (o.andThen ⟨b, e, []⟩).events = o.events := by
  rw [events_andThen]
  exact List.append_nil o.events

section Candor

variable {α β : Type}

/-- Cheating is never detected silently: an error that says so comes with a report. And a warning
never comes without such an error, or a value that denies what was asked. -/
structure Candor (span : Option String) (Denies : α → Prop) (result : Except ProtocolError α)
    (events : List Event) : Prop where
  reported (cause : Cheating) : result = .error (.cheating cause) →
    ∃ event ∈ events, event.Reports span cause
  founded : Warns events →
    (∃ cause, result = .error (.cheating cause)) ∨ ∃ a, result = .ok a ∧ Denies a

/-- Candor of an operation before which there may have been a warning, and a property of its
value. -/
structure Honest (warned : Prop) (span : Option String) (P Denies : α → Prop)
    (result : Except ProtocolError α) (events : List Event) : Prop where
  reported (cause : Cheating) : result = .error (.cheating cause) →
    ∃ event ∈ events, event.Reports span cause
  founded : warned ∨ Warns events →
    (∃ cause, result = .error (.cheating cause)) ∨ ∃ a, result = .ok a ∧ Denies a
  value (a : α) : result = .ok a → P a

namespace Honest

variable {warned : Prop} {span : Option String} {P Denies : α → Prop} {Q Denies' : β → Prop}
  {events : List Event}

theorem candor {result : Except ProtocolError α}
    (h : Honest False span P Denies result events) : Candor span Denies result events :=
  ⟨h.reported, fun hwarns => h.founded (.inr hwarns)⟩

theorem ok {a : α} (h : P a) (hdenies : warned ∨ Warns events → Denies a) :
    Honest warned span P Denies (.ok a) events where
  reported := nofun
  founded hwarned := .inr ⟨a, rfl, hdenies hwarned⟩
  value := by rintro _ ⟨⟩; exact h

theorem cheating {cause : Cheating} (h : ∃ event ∈ events, event.Reports span cause) :
    Honest warned span P Denies (.error (.cheating cause)) events where
  reported := by rintro _ ⟨⟩; exact h
  founded _ := .inl ⟨cause, rfl⟩
  value := nofun

theorem mono {P' : α → Prop} {result : Except ProtocolError α}
    (h : Honest warned span P Denies result events) (hP : ∀ a, P a → P' a) :
    Honest warned span P' Denies result events :=
  ⟨h.reported, h.founded, fun a ha => hP a (h.value a ha)⟩

/-- A failure that is nobody's cheating comes without a warning. -/
theorem silent {error : ProtocolError} (hne : ∀ cause, error ≠ .cheating cause)
    (hquiet : ¬ Warns events) : Honest False span P Denies (.error error) events where
  reported := by rintro cause ⟨⟩; exact absurd rfl (hne cause)
  founded hwarned := absurd (hwarned.resolve_left id) hquiet
  value := nofun

/-- A failure ends what comes behind it too. -/
theorem failed {error : ProtocolError}
    (h : Honest warned span P Denies (.error error : Except ProtocolError α) events) :
    Honest warned span Q Denies' (.error error : Except ProtocolError β) events where
  reported cause hcause := h.reported cause (by cases hcause; rfl)
  founded hwarned := by
    obtain ⟨cause, hcause⟩ | ⟨_, hcause, -⟩ := h.founded hwarned
    · exact .inl ⟨cause, by cases hcause; rfl⟩
    · cases hcause
  value := nofun

/-- What goes on from a value knows of a warning before it only that the value denies. -/
theorem append {a : α} {result : Except ProtocolError β} {later : List Event}
    (h : Honest warned span P Denies (.ok a) events)
    (hlater : Honest (Denies a) span Q Denies' result later) :
    Honest warned span Q Denies' result (events ++ later) where
  reported cause hcause := by
    obtain ⟨event, hmem, hreports⟩ := hlater.reported cause hcause
    exact ⟨event, List.mem_append_right _ hmem, hreports⟩
  founded hwarned := by
    refine hlater.founded ?_
    rw [warns_append, ← or_assoc] at hwarned
    refine hwarned.imp_left fun hbefore => ?_
    obtain ⟨_, hcause⟩ | ⟨_, hvalue, hdenies⟩ := h.founded hbefore
    · cases hcause
    · cases hvalue
      exact hdenies
  value := hlater.value

end Honest

end Candor

/-! ## Programs -/

namespace Program

variable {α β : Type}

/-- The program never warns. -/
def Quiet : Program α → Prop
  | done _ => True
  | draw _ _ next => ∀ block, (next block).Quiet
  | send _ next => ∀ taken, (next taken).Quiet
  | receive next => ∀ frame?, (next frame?).Quiet
  | note event next => event.isWarning = false ∧ next.Quiet

theorem Quiet.not_warns {p : Program α} (h : p.Quiet) {e : Endpoint} {o : Outcome α}
    (hrun : p.run e = some o) : ¬ Warns o.events := by
  induction p generalizing e o with
  | done a =>
    cases hrun
    exact not_warns_nil
  | draw length accept next ih =>
    simp only [run] at hrun
    split at hrun
    · exact ih _ (h _) hrun
    · cases hrun
  | send frame next ih =>
    simp only [run] at hrun
    split at hrun
    · obtain ⟨o', ho', rfl⟩ := Option.map_eq_some_iff.1 hrun
      show ¬ Warns o'.events
      exact ih _ (h _) ho'
    · obtain ⟨o', ho', rfl⟩ := Option.map_eq_some_iff.1 hrun
      show ¬ Warns o'.events
      exact ih _ (h _) ho'
  | receive next ih =>
    simp only [run] at hrun
    split at hrun
    · obtain ⟨o', ho', rfl⟩ := Option.map_eq_some_iff.1 hrun
      show ¬ Warns o'.events
      exact ih _ (h _) ho'
    · obtain ⟨o', ho', rfl⟩ := Option.map_eq_some_iff.1 hrun
      show ¬ Warns o'.events
      exact ih _ (h _) ho'
  | note event next ih =>
    obtain ⟨o', ho', rfl⟩ := Option.map_eq_some_iff.1 hrun
    rintro ⟨other, hmem, hwarning⟩
    obtain rfl | hmem := List.mem_cons.1 hmem
    · rw [h.1] at hwarning
      cases hwarning
    · exact ih h.2 ho' ⟨other, hmem, hwarning⟩

theorem quiet_bytes {length : Nat} : (bytes length).Quiet := fun _ => trivial

theorem quiet_randomScalar {G : CyclicGroup} : G.randomScalar.Quiet := fun _ => trivial

end Program

/-! ## Attempts -/

namespace Attempt

variable {α β ι : Type}

/-- Every run of the attempt is candid. -/
def Candid (x : Attempt α) (span : Option String) (Denies : α → Prop) : Prop :=
  ∀ e o, x.run.run e = some o → Candor span Denies o.result o.events

/-- Every run is candid after what was warned of before, and `P` holds of every value that a run
ends with. -/
def Tells (x : Attempt α) (warned : Prop) (span : Option String) (P Denies : α → Prop) : Prop :=
  ∀ e, x.Ensures e True fun o => Honest warned span P Denies o.result o.events

/-- Without a warning before it, and no value denies anything. -/
abbrev Reports (x : Attempt α) (span : Option String) : Prop :=
  x.Tells False span (fun _ => True) fun _ => False

namespace Tells

variable {x : Attempt α} {f : α → Attempt β} {warned : Prop} {span : Option String}
  {P Denies : α → Prop} {Q Denies' : β → Prop}

theorem candid (h : x.Tells False span P Denies) : x.Candid span Denies :=
  fun e _ hrun => ((h e).outcome hrun).candor

theorem value (h : x.Tells warned span P Denies) {e : Endpoint}
    {o : Outcome (Except ProtocolError α)} {a : α} (hrun : x.run.run e = some o)
    (ho : o.result = .ok a) : P a :=
  ((h e).outcome hrun).value a ho

theorem mono {P' : α → Prop} (h : x.Tells warned span P Denies) (hP : ∀ a, P a → P' a) :
    x.Tells warned span P' Denies :=
  fun e => Program.Ensures.mono (h e) fun _ ho => ho.mono hP

/-- Without a warning before it. -/
theorem unwarned (h : x.Tells False span P Denies) (hwarned : ¬ warned) :
    x.Tells warned span P Denies := by
  obtain rfl : warned = False := eq_false hwarned
  exact h

theorem pure {a : α} (h : P a) (hdenies : warned → Denies a) :
    (pure a : Attempt α).Tells warned span P Denies :=
  fun _ => .pure (.ok h fun hwarned => hdenies (hwarned.resolve_right not_warns_nil))

theorem fail {error : ProtocolError} (h : ∀ cause, error ≠ .cheating cause) :
    (fail error : Attempt α).Tells False span P Denies :=
  fun _ => .fail (.silent h not_warns_nil)

/-- A failure for cheating after its report. -/
theorem report {event : Event} {cause : Cheating} (h : event.Reports span cause) :
    (Attempt.note event >>= fun _ => (Attempt.fail (.cheating cause) : Attempt α)).Tells warned span
      P Denies :=
  fun _ => .note (.fail (.cheating ⟨event, .head _, h⟩))

theorem accuse {cause : Cheating} :
    (accuse span cause : Attempt α).Tells warned span P Denies :=
  report (Event.reports_accusation span cause)

theorem note {event : Event} (h : event.isWarning = false) :
    (note event).Reports span := by
  refine fun _ => Program.Ensures.of_run rfl (.ok trivial ?_)
  rintro (⟨⟨⟩⟩ | ⟨_, hmem, hwarning⟩)
  obtain rfl := List.mem_singleton.1 hmem
  rw [h] at hwarning
  cases hwarning

/-- Whatever is noted, there may have been a warning then. -/
theorem warn {event : Event} :
    (Attempt.note event).Tells warned span (fun _ => True) fun _ => True :=
  fun _ => Program.Ensures.of_run rfl (.ok trivial fun _ => trivial)

/-- A program cannot fail. -/
theorem of {p : Program α}
    (h : ∀ e, p.Ensures e True fun o => P o.result ∧ (Warns o.events → Denies o.result)) :
    (of p).Tells False span P Denies := by
  refine fun e => Program.ensures_bind.2 (Program.Ensures.mono (h e) fun o ho => ?_)
  refine .of_run rfl (.ok ho.1 fun hwarned => ?_)
  rw [Outcome.events_andThen_done] at hwarned
  exact ho.2 (hwarned.resolve_left id)

theorem quiet {p : Program α} (h : p.Quiet) :
    (Attempt.of p).Reports span :=
  of fun _ => .intro (fun _ => trivial) fun _ hrun => ⟨trivial, h.not_warns hrun⟩

/-- A quiet program of which something is known. -/
theorem quiet_ensures {p : Program α} (h : p.Quiet)
    (hP : ∀ e, p.Ensures e True fun o => P o.result) :
    (Attempt.of p).Tells False span P fun _ => False :=
  of fun e => .intro (fun _ => trivial) fun _ hrun => ⟨(hP e).outcome hrun, h.not_warns hrun⟩

theorem send [Wire ι] {message : ι} :
    (send message).Reports span := by
  refine fun e => Program.Ensures.of_run (run_send message e) ?_
  split
  · exact .ok trivial (by rintro (⟨⟨⟩⟩ | ⟨_, ⟨⟩, _⟩))
  · exact .silent nofun nofun

theorem receive [Wire ι] : (receive ι).Reports span := by
  refine fun e => Program.Ensures.of_run (run_receive e) ?_
  show Honest _ _ _ _ (ofFrame? ι e.inbox.head?) []
  unfold ofFrame?
  split
  · rename_i frame _
    rcases Wire.decode ι frame with cause | message
    · exact .silent nofun not_warns_nil
    · exact .ok trivial fun h => h.elim id not_warns_nil
  · exact .silent nofun not_warns_nil

theorem judge {check : Except Cheating α} :
    (judge span check).Tells False span (check = .ok ·) fun _ => False := by
  cases check with
  | error cause => exact accuse
  | ok a => exact pure rfl id

/-- A check that fails for certain. -/
theorem judge_error {cause : Cheating} :
    (Attempt.judge span (.error cause : Except Cheating α)).Tells warned span P Denies :=
  accuse

theorem require {check : Except InputError α} :
    (require check).Tells False span (check = .ok ·) fun _ => False := by
  cases check with
  | error cause => exact fail nofun
  | ok a => exact pure rfl id

theorem configure {check : Except SetupError α} :
    (configure check).Tells False span (check = .ok ·) fun _ => False := by
  cases check with
  | error cause => exact fail nofun
  | ok a => exact pure rfl id

theorem bind (h : x.Tells warned span P Denies)
    (hf : ∀ a, P a → (f a).Tells (Denies a) span Q Denies') :
    (x >>= f).Tells warned span Q Denies' := by
  refine fun e => .call (h e) (fun o error ho hresult => ?_) fun o a ho hresult => ?_
  · rw [hresult] at ho
    rw [Outcome.events_andThen_done]
    exact ho.failed
  · rw [hresult] at ho
    refine Program.Ensures.mono (hf a (ho.value a rfl) o.endpoint) fun o' ho' => ?_
    rw [Outcome.events_andThen]
    exact ho.append ho'

theorem ite {p : Prop} [Decidable p] {y : Attempt α} (hx : p → x.Tells warned span P Denies)
    (hy : ¬ p → y.Tells warned span P Denies) :
    (if p then x else y).Tells warned span P Denies := by
  split
  · rename_i hp; exact hx hp
  · rename_i hp; exact hy hp

end Tells

end Attempt

/-! ## Actions -/

namespace Action

variable {ρ σ α β : Type}

/-- Every run of the action from the state is candid. -/
def Candid (x : Action ρ α) (r : ρ) (span : Option String) (Denies : α → Prop) : Prop :=
  ∀ e o, (x.run r).run e = some o → Candor span Denies o.result.1 o.events

/-- From every state that satisfies `I` every run is candid after what was warned of before, `P`
holds of the value that it ends with, and `I` of the state that it leaves. -/
def Tells (x : Action ρ α) (I : ρ → Prop) (warned : Prop) (span : Option String)
    (P Denies : α → Prop) : Prop :=
  ∀ r, I r → ∀ e, (x.run r).Ensures e True fun o =>
    I o.result.2 ∧ Honest warned span P Denies o.result.1 o.events

/-- Without a warning before it, and no value denies anything. -/
abbrev Reports (x : Action ρ α) (I : ρ → Prop) (span : Option String) : Prop :=
  x.Tells I False span (fun _ => True) fun _ => False

namespace Tells

variable {x : Action ρ α} {f : α → Action ρ β} {I : ρ → Prop} {warned : Prop}
  {span : Option String} {P Denies : α → Prop} {Q Denies' : β → Prop} {r : ρ}

theorem candid (h : x.Tells I False span P Denies) (hr : I r) : x.Candid r span Denies :=
  fun e _ hrun => ((h r hr e).outcome hrun).2.candor

/-- Without a warning before it. -/
theorem unwarned (h : x.Tells I False span P Denies) (hwarned : ¬ warned) :
    x.Tells I warned span P Denies := by
  obtain rfl : warned = False := eq_false hwarned
  exact h

/-- The action inside an attempt. -/
theorem runIn (h : x.Tells I warned span P Denies) (hr : I r) :
    (x.runIn r).Tells warned span (fun p => P p.1 ∧ I p.2) fun p => Denies p.1 := by
  refine fun e => Program.ensures_bind.2 (Program.Ensures.mono (h r hr e) fun o ho => ?_)
  refine .of_run rfl ?_
  obtain ⟨hI, ho⟩ := ho
  rw [Outcome.events_andThen_done]
  show Honest _ _ _ _ (o.result.1.map _) o.events
  rcases hresult : o.result.1 with error | a
  · rw [hresult] at ho
    exact ho.failed
  · rw [hresult] at ho
    refine .ok ⟨ho.value a rfl, hI⟩ fun hwarned => ?_
    obtain ⟨_, ⟨⟩⟩ | ⟨_, ⟨⟩, hdenies⟩ := ho.founded hwarned
    exact hdenies

theorem pure {a : α} (h : P a) (hdenies : warned → Denies a) :
    (pure a : Action ρ α).Tells I warned span P Denies :=
  fun _ hr _ => .of_run rfl ⟨hr, .ok h fun hwarned => hdenies (hwarned.resolve_right not_warns_nil)⟩

theorem of {y : Attempt α} (h : y.Tells warned span P Denies) :
    (Action.of y : Action ρ α).Tells I warned span P Denies := by
  refine fun r hr e => Program.ensures_bind.2 (Program.Ensures.mono (h e) fun o ho => ?_)
  refine .of_run rfl ⟨hr, ?_⟩
  rw [Outcome.events_andThen_done]
  exact ho

theorem state : (state : Action ρ ρ).Tells I warned span I fun _ => warned :=
  fun _ hr _ => .of_run rfl ⟨hr, .ok hr fun hwarned => hwarned.resolve_right not_warns_nil⟩

theorem put (hr : I r) : (put r).Reports I span :=
  fun _ _ _ => .of_run rfl ⟨hr, .ok trivial fun hwarned => hwarned.elim id not_warns_nil⟩

theorem bind (h : x.Tells I warned span P Denies)
    (hf : ∀ a, P a → (f a).Tells I (Denies a) span Q Denies') :
    (x >>= f).Tells I warned span Q Denies' := by
  intro r hr e
  rw [run_bind]
  refine Program.ensures_bind.2 (Program.Ensures.mono (h r hr e) fun o ho => ?_)
  obtain ⟨hI, ho⟩ := ho
  rcases hresult : o.result with ⟨error | a, r'⟩
  · rw [hresult] at ho hI
    refine .of_run rfl ⟨hI, ?_⟩
    rw [Outcome.events_andThen_done]
    exact ho.failed
  · rw [hresult] at ho hI
    refine Program.Ensures.mono (hf a (ho.value a rfl) r' hI o.endpoint) fun o' ho' => ?_
    rw [Outcome.events_andThen]
    exact ⟨ho'.1, ho.append ho'.2⟩

theorem map (h : x.Tells I False span P fun _ => False) (g : α → β) :
    (g <$> x).Reports I span := by
  rw [map_eq_pure_bind]
  exact h.bind fun _ _ => pure trivial id

theorem ite {p : Prop} [Decidable p] {y : Action ρ α} (hx : x.Tells I warned span P Denies)
    (hy : y.Tells I warned span P Denies) : (if p then x else y).Tells I warned span P Denies := by
  split
  · exact hx
  · exact hy

/-- An action on a part of a larger state. -/
theorem within {part : σ → ρ} {replace : σ → ρ → σ} (hreplace : ∀ s r, part (replace s r) = r)
    (h : x.Tells I warned span P Denies) :
    (Action.within part replace x).Tells (fun s => I (part s)) warned span P Denies := by
  refine fun s hs e =>
    Program.ensures_bind.2 (Program.Ensures.mono (h (part s) hs e) fun o ho => ?_)
  refine .of_run rfl ⟨?_, ?_⟩
  · show I (part (replace s o.result.2))
    rw [hreplace]
    exact ho.1
  · rw [Outcome.events_andThen_done]
    exact ho.2

end Tells

end Action

/-- What every operation keeps holds of the state after any calls. -/
theorem Calls.keeps {Op Reply ρ : Type} {perform : Op → Action ρ Reply} {first last : ρ}
    {calls : List (Call Op Reply ρ)} {I : ρ → Prop} {span : Option String}
    {P Denies : Reply → Prop} (hcalls : Calls perform first calls last)
    (h : ∀ op, (perform op).Tells I False span P Denies) (hfirst : I first) : I last :=
  hcalls.invariant hfirst fun op r e _ hr hrun => ((h op r hr e).outcome hrun).1

end TwoParty
