/-
Failures for which the caller is to blame. An operation refuses its caller if it fails so at once:
nothing is drawn, sent or received before, and the failure depends on nothing that comes from
outside. An operation that has begun blames its caller no more, whatever frames arrive; `Blameless`
goes through it step by step and says beside this what holds of the value it ends with, since the
steps behind are blameless only for the values of those before.
-/
import TwoParty.Proofs.Action

namespace TwoParty

/-- The caller is to blame, for the parameters of a role or for an argument. -/
def ProtocolError.isLocal : ProtocolError → Bool
  | setup _ => true
  | input _ => true
  | _ => false

/-! ## Attempts -/

namespace Attempt

variable {α β ι : Type}

/-- The result is a value that satisfies `P`, or a failure that is not the caller's fault. -/
def Excuses (P : α → Prop) : Except ProtocolError α → Prop
  | .ok a => P a
  | .error error => error.isLocal = false

/-- No run of the attempt blames the caller, and `P` holds of every value that a run ends with. -/
def Blameless (x : Attempt α) (P : α → Prop) : Prop :=
  ∀ e, x.Ensures e True fun o => Excuses P o.result

namespace Blameless

variable {x : Attempt α} {f : α → Attempt β} {P : α → Prop} {Q : β → Prop} {span : Option String}

theorem pure {a : α} (h : P a) : (pure a : Attempt α).Blameless P := fun _ => .pure h

theorem fail {error : ProtocolError} (h : error.isLocal = false) :
    (fail error : Attempt α).Blameless P := fun _ => .fail h

theorem accuse {cause : Cheating} : (accuse span cause : Attempt α).Blameless P :=
  fun _ => .accuse rfl

/-- Nothing follows an accusation. -/
theorem accuse_bind {cause : Cheating} : (Attempt.accuse span cause >>= f).Blameless Q :=
  fun _ => .bind rfl

theorem note {event : Event} : (note event).Blameless fun _ => True :=
  fun _ => Program.Ensures.of_run rfl trivial

/-- A program cannot fail. -/
theorem of {p : Program α} (h : ∀ e, p.Ensures e True fun o => P o.result) :
    (of p).Blameless P :=
  fun e => Program.ensures_bind.2 (Program.Ensures.mono (h e) fun _ ho => ho)

theorem program {p : Program α} : (Attempt.of p).Blameless fun _ => True :=
  of fun _ => .intro (fun _ => trivial) fun _ _ => trivial

theorem send [Wire ι] {message : ι} : (send message).Blameless fun _ => True := by
  refine fun e => Program.Ensures.of_run (run_send message e) ?_
  split
  · exact trivial
  · exact rfl

theorem receive [Wire ι] : (receive ι).Blameless fun _ => True := by
  refine fun e => Program.Ensures.of_run (run_receive e) ?_
  show Excuses _ (ofFrame? ι e.inbox.head?)
  unfold ofFrame?
  split
  · rename_i frame _
    rcases Wire.decode ι frame with cause | message
    · exact rfl
    · exact trivial
  · exact rfl

theorem judge {check : Except Cheating α} :
    (judge span check).Blameless fun a => check = .ok a := by
  cases check with
  | error cause => exact accuse
  | ok a => exact pure rfl

theorem bind (h : x.Blameless P) (hf : ∀ a, P a → (f a).Blameless Q) : (x >>= f).Blameless Q := by
  refine fun e => .call (h e) (fun o error ho hresult => ?_) fun o a ho hresult => ?_
  · rw [hresult] at ho; exact ho
  · rw [hresult] at ho; exact hf a ho o.endpoint

/-- The value of the first step does not matter to the others. -/
theorem andThen (h : x.Blameless P) (hf : ∀ a, (f a).Blameless Q) : (x >>= f).Blameless Q :=
  h.bind fun a _ => hf a

theorem ite {p : Prop} [Decidable p] {y : Attempt α} (hx : p → x.Blameless P)
    (hy : ¬ p → y.Blameless P) : (if p then x else y).Blameless P := by
  split
  · rename_i hp; exact hx hp
  · rename_i hp; exact hy hp

end Blameless

/-- The error of a check of what the caller gave. -/
def failure? {ε : Type} (blame : ε → ProtocolError) : Except ε α → Option ProtocolError
  | .ok _ => none
  | .error cause => some (blame cause)

/-- The attempt blames its caller with the refusal alone, and only at once. -/
structure Refuses (x : Attempt α) (refusal? : Option ProtocolError) : Prop where
  /-- The refusal is the whole run, whatever randomness, frames and line the endpoint has. -/
  atOnce (error : ProtocolError) : refusal? = some error →
    ∀ e, x.run.run e = some ⟨.error error, e, []⟩
  /-- Without a refusal no run blames the caller. -/
  never : refusal? = none → ∀ e o error, x.run.run e = some o → o.result = .error error →
    error.isLocal = false
  /-- If some run blames the caller, all runs do so in the same way, before they do anything. -/
  everywhere (e : Endpoint) (o : Outcome (Except ProtocolError α)) (error : ProtocolError) :
    x.run.run e = some o → o.result = .error error → error.isLocal = true →
      ∀ e', x.run.run e' = some ⟨.error error, e', []⟩

namespace Refuses

variable {x : Attempt α} {f : α → Attempt β} {refusal? : Option ProtocolError}

theorem fail {error : ProtocolError} : (fail error : Attempt α).Refuses (some error) where
  atOnce := by
    rintro _ ⟨⟩ e
    rfl
  never := nofun
  everywhere := by
    rintro e o _ ⟨⟩ ⟨⟩ _ e'
    rfl

theorem blameless {P : α → Prop} (h : x.Blameless P) : x.Refuses none := by
  have hnever : ∀ e o error, x.run.run e = some o → o.result = .error error →
      error.isLocal = false := by
    intro e o error hrun hresult
    have ho := (h e).outcome hrun
    rwa [hresult] at ho
  refine ⟨nofun, fun _ => hnever, fun e o error hrun hresult hlocal => ?_⟩
  cases hlocal.symm.trans (hnever e o error hrun hresult)

theorem configure (check : Except SetupError α) :
    (configure check).Refuses (failure? .setup check) := by
  cases check with
  | error cause => exact fail
  | ok a => exact blameless (.pure rfl : Blameless _ (· = a))

theorem require {check : Except InputError α} {P : β → Prop}
    (h : ∀ a, check = .ok a → (f a).Blameless P) :
    (require check >>= f).Refuses (failure? .input check) := by
  cases check with
  | error cause => exact fail
  | ok a => exact blameless (h a rfl)

end Refuses

/-- Beside this, `P` holds of every value that the attempt ends with. -/
structure Settles (x : Attempt α) (refusal? : Option ProtocolError) (P : α → Prop) : Prop
    extends x.Refuses refusal? where
  value (e : Endpoint) (o : Outcome (Except ProtocolError α)) (a : α) :
    x.run.run e = some o → o.result = .ok a → P a

namespace Settles

variable {x : Attempt α} {f : α → Attempt β} {P : α → Prop} {Q : β → Prop}

theorem fail {error : ProtocolError} : (Attempt.fail error : Attempt α).Settles (some error) P where
  toRefuses := .fail
  value := by rintro e o a ⟨⟩ ⟨⟩

theorem blameless (h : x.Blameless P) : x.Settles none P where
  toRefuses := .blameless h
  value e o a hrun hresult := by
    have ho := (h e).outcome hrun
    rwa [hresult] at ho

theorem configure {check : Except SetupError α} {refusal? : Option ProtocolError}
    (h : ∀ a, check = .ok a → (f a).Settles refusal? Q) :
    (configure check >>= f).Settles ((failure? .setup check).or refusal?) Q := by
  cases check with
  | error cause => exact fail
  | ok a => exact h a rfl

/-- There is nothing else to refuse. -/
theorem configure_last {check : Except SetupError α}
    (h : ∀ a, check = .ok a → (f a).Blameless Q) :
    (Attempt.configure check >>= f).Settles (failure? .setup check) Q := by
  have hconfigure : (Attempt.configure check >>= f).Settles ((failure? .setup check).or none) Q :=
    configure fun a ha => blameless (h a ha)
  rwa [Option.or_none] at hconfigure

end Settles

end Attempt

/-! ## Actions -/

namespace Action

variable {ρ σ α β : Type}

/-- From the state `r` the action blames its caller with the refusal alone, and only at once, in
which case the state stays as it is. -/
structure Refuses (x : Action ρ α) (r : ρ) (refusal? : Option ProtocolError) : Prop where
  /-- The refusal is the whole run, whatever randomness, frames and line the endpoint has. -/
  atOnce (error : ProtocolError) : refusal? = some error →
    ∀ e, (x.run r).run e = some ⟨(.error error, r), e, []⟩
  /-- Without a refusal no run blames the caller. -/
  never : refusal? = none → ∀ e o error, (x.run r).run e = some o → o.result.1 = .error error →
    error.isLocal = false
  /-- If some run blames the caller, all runs do so in the same way, before they do anything. -/
  everywhere (e : Endpoint) (o : Outcome (Except ProtocolError α × ρ)) (error : ProtocolError) :
    (x.run r).run e = some o → o.result.1 = .error error → error.isLocal = true →
      ∀ e', (x.run r).run e' = some ⟨(.error error, r), e', []⟩

namespace Refuses

variable {x : Action ρ α} {r : ρ} {refusal? : Option ProtocolError}

theorem fail {error : ProtocolError} (hrun : x.run r = .done (.error error, r)) :
    x.Refuses r (some error) := by
  refine ⟨?_, nofun, ?_⟩
  · rintro _ ⟨⟩ e
    rw [hrun]
    rfl
  · rintro e o error' hsome hresult _ e'
    rw [hrun] at hsome ⊢
    cases hsome
    cases hresult
    rfl

theorem never_refuses (h : ∀ e o error, (x.run r).run e = some o → o.result.1 = .error error →
    error.isLocal = false) : x.Refuses r none := by
  refine ⟨nofun, fun _ => h, fun e o error hrun hresult hlocal => ?_⟩
  cases hlocal.symm.trans (h e o error hrun hresult)

theorem succeed {a : α} {r' : ρ} (hrun : x.run r = .done (.ok a, r')) : x.Refuses r none := by
  refine never_refuses fun e o error hsome hresult => ?_
  rw [hrun] at hsome
  cases hsome
  cases hresult

/-- An atomic action blames its caller as it does inside an attempt. -/
theorem blameless {P : α × ρ → Prop} (hx : x.Atomic) (h : (x.runIn r).Blameless P) :
    x.Refuses r none := by
  refine never_refuses fun e o error hrun hresult => ?_
  have hensures : (x.run r).Ensures e True fun o => ∀ error, o.result.1 = .error error →
      error.isLocal = false := by
    refine hx.ensures (Program.Ensures.mono (h e) fun o ho => ?_)
    rcases hpair : o.result with cause | p
    · rw [hpair] at ho
      rintro _ ⟨⟩
      exact ho
    · exact nofun
  exact hensures.outcome hrun error hresult

/-- An action that runs as another does, up to what it makes of its result and its state. -/
theorem of_run_map {y : Action σ β} {s : σ} {g : Except ProtocolError α × ρ →
    Except ProtocolError β × σ} (h : x.Refuses r refusal?) (hrun : y.run s = g <$> x.run r)
    (hfailed : ∀ error, g (.error error, r) = (.error error, s))
    (herror : ∀ p error, (g p).1 = .error error → p.1 = .error error) :
    y.Refuses s refusal? := by
  have hback : ∀ e o error, (y.run s).run e = some o → o.result.1 = .error error →
      ∃ o', (x.run r).run e = some o' ∧ o'.result.1 = .error error := by
    intro e o error hsome hresult
    rw [hrun] at hsome
    have hsome : ((x.run r).bind fun p => .done (g p)).run e = some o := hsome
    rw [Program.run_bind] at hsome
    rcases hx : (x.run r).run e with _ | o'
    · rw [hx] at hsome; cases hsome
    · rw [hx] at hsome
      cases hsome
      exact ⟨o', rfl, herror _ _ hresult⟩
  have hforth : ∀ e error, (x.run r).run e = some ⟨(.error error, r), e, []⟩ →
      (y.run s).run e = some ⟨(.error error, s), e, []⟩ := by
    intro e error hsome
    rw [hrun]
    show ((x.run r).bind fun p => .done (g p)).run e = _
    rw [Program.run_bind, hsome, ← hfailed]
    rfl
  refine ⟨fun error hrefusal e => hforth e error (h.atOnce error hrefusal e), ?_, ?_⟩
  · intro hnone e o error hsome hresult
    obtain ⟨o', ho', hresult'⟩ := hback e o error hsome hresult
    exact h.never hnone e o' error ho' hresult'
  · intro e o error hsome hresult hlocal e'
    obtain ⟨o', ho', hresult'⟩ := hback e o error hsome hresult
    exact hforth e' error (h.everywhere e o' error ho' hresult' hlocal e')

theorem map (h : x.Refuses r refusal?) (f : α → β) : (f <$> x).Refuses r refusal? := by
  refine h.of_run_map (g := fun p => (p.1.map f, p.2)) ?_ (fun _ => rfl) ?_
  · rw [map_eq_pure_bind, run_bind]
    show Program.bind _ _ = Program.bind _ _
    congr 1
    funext ⟨result, r'⟩
    cases result with
    | ok a => rfl
    | error error => rfl
  · rintro ⟨result, r'⟩ error hresult
    cases result with
    | ok a => cases hresult
    | error _ => cases hresult; rfl

end Refuses

end Action

end TwoParty
