/-
Attempts that succeed, alone and against each other, and actions as attempts: running an action
from a state is a homomorphism, so the operations of a role can be read without their state monad.
-/
import TwoParty.Attempt
import TwoParty.Proofs.Program.Exchange
import TwoParty.Proofs.Wire

namespace TwoParty

namespace Attempt

variable {α β γ δ : Type}

/-! ## Steps -/

/-- What follows a result; an error is kept. -/
def onward (f : α → Attempt β) : Except ProtocolError α → Program (Except ProtocolError β)
  | .ok a => (f a).run
  | .error error => .done (.error error)

theorem run_bind (x : Attempt α) (f : α → Attempt β) : (x >>= f).run = x.run.bind (onward f) := by
  show Program.bind _ _ = _
  congr 1
  funext result
  cases result <;> rfl

theorem run_of_bind (p : Program α) (f : α → Attempt β) :
    (of p >>= f).run = p.bind fun a => (f a).run := by
  rw [run_bind]
  exact Program.bind_assoc p (fun a => .done (.ok a)) (onward f)

@[simp] theorem judge_ok (span : Option String) (a : α) :
    judge span (.ok a : Except Cheating α) = pure a := rfl

@[simp] theorem require_ok (a : α) : require (.ok a : Except InputError α) = pure a := rfl

@[simp] theorem configure_ok (a : α) : configure (.ok a : Except SetupError α) = pure a := rfl

/-! ## Success -/

/-- The attempt keeps to itself and succeeds. -/
def Yields (x : Attempt α) (s : Source) (last : α × Source) : Prop :=
  x.run.Yields s (.ok last.1, last.2)

/-- The attempts, run side by side with all queues empty, exchange the passages and succeed, with
all queues empty again. -/
def Meets (x : Attempt α) (y : Attempt β) (s t : Source) (passages : List Passage)
    (left : α × Source) (right : β × Source) : Prop :=
  x.run.Meets y.run s t passages (.ok left.1, left.2) (.ok right.1, right.2)

variable {x : Attempt α} {y : Attempt β} {f : α → Attempt γ} {g : β → Attempt δ}
  {s s' t t' : Source} {passages passages' : List Passage} {a : α} {b : β}

theorem Yields.pure (a : α) (s : Source) : (pure a : Attempt α).Yields s (a, s) :=
  Program.Yields.done _ s

theorem Yields.bind (h : x.Yields s (a, s')) {last : γ × Source} (h' : (f a).Yields s' last) :
    (x >>= f).Yields s last := by
  unfold Yields at h h' ⊢
  rw [run_bind]
  exact Program.Yields.bind h h'

theorem Yields.of {p : Program α} {last : α × Source} (h : p.Yields s last) :
    (of p).Yields s last :=
  Program.Yields.bind h (Program.Yields.done _ _)

theorem Yields.note (event : Event) (s : Source) : (note event).Yields s ((), s) :=
  Program.Yields.note event (Program.Yields.done _ s)

theorem Meets.pure (a : α) (b : β) (s t : Source) :
    (pure a : Attempt α).Meets (pure b : Attempt β) s t [] (a, s) (b, t) :=
  Program.Meets.done _ _ s t

theorem Meets.bind (h : x.Meets y s t passages (a, s') (b, t')) {c : γ × Source} {d : δ × Source}
    (h' : (f a).Meets (g b) s' t' passages' c d) :
    (x >>= f).Meets (y >>= g) s t (passages ++ passages') c d := by
  unfold Meets at h h' ⊢
  rw [run_bind, run_bind]
  exact Program.Meets.bind h h'

theorem Meets.bind_quiet (h : x.Meets y s t passages (a, s') (b, t')) {c : γ × Source}
    {d : δ × Source} (h' : (f a).Meets (g b) s' t' [] c d) :
    (x >>= f).Meets (y >>= g) s t passages c d := by
  rw [← List.append_nil passages]
  exact h.bind h'

theorem Meets.map (h : x.Meets y s t passages (a, s') (b, t')) (φ : α → γ) (ψ : β → δ) :
    (φ <$> x).Meets (ψ <$> y) s t passages (φ a, s') (ψ b, t') := by
  rw [map_eq_pure_bind, map_eq_pure_bind]
  exact h.bind_quiet (Meets.pure (φ a) (ψ b) s' t')

theorem Meets.map_right (h : x.Meets y s t passages (a, s') (b, t')) (ψ : β → δ) :
    x.Meets (ψ <$> y) s t passages (a, s') (ψ b, t') := by
  have hmap := h.map id ψ
  rwa [id_map] at hmap

/-- A phase of one frame comes first. -/
theorem Meets.cons {passage : Passage} (h : x.Meets y s t [passage] (a, s') (b, t'))
    {c : γ × Source} {d : δ × Source} (h' : (f a).Meets (g b) s' t' passages' c d) :
    (x >>= f).Meets (y >>= g) s t (passage :: passages') c d :=
  h.bind h'

theorem Meets.swap {left : α × Source} {right : β × Source}
    (h : x.Meets y s t passages left right) :
    y.Meets x t s (passages.map Passage.flip) right left :=
  Program.Meets.swap h

theorem Yields.left (h : x.Yields s (a, s')) {c : γ × Source} {d : β × Source}
    (h' : (f a).Meets y s' t passages c d) : (x >>= f).Meets y s t passages c d := by
  unfold Yields Meets at *
  rw [run_bind]
  exact Program.Yields.left h h'

theorem Yields.right (h : y.Yields t (b, t')) {c : α × Source} {d : δ × Source}
    (h' : x.Meets (g b) s t' passages c d) : x.Meets (y >>= g) s t passages c d := by
  unfold Yields Meets at *
  rw [run_bind]
  exact Program.Yields.right h h'

theorem Yields.meets {left : α × Source} {right : β × Source} (h : x.Yields s left)
    (h' : y.Yields t right) : x.Meets y s t [] left right :=
  Program.Yields.meets h h'

theorem ofFrame?_write [Wire γ] [Wire.Lawful γ] {message : γ} (h : Wire.Fits message) :
    ofFrame? γ (some (Wire.write message)) = .ok message := by
  unfold ofFrame?
  simp only
  rw [Wire.decode_write h]
  rfl

/-- A message that fits arrives as it was sent. -/
theorem Meets.send [Wire γ] [Wire.Lawful γ] {message : γ} (h : Wire.Fits message) (s t : Source) :
    (send message).Meets (receive γ) s t [(.first, Wire.write message)] ((), s) (message, t) := by
  -- both operations are one step of the channel, and then a verdict on what it gave
  have hsend : (Attempt.send message).run = (Program.send (Wire.write message) .done).bind
      fun taken => .done (if taken then .ok () else .error (.channel .closed)) := rfl
  have hreceive : (Attempt.receive γ).run =
      (Program.receive .done).bind fun frame? => .done (ofFrame? γ frame?) := rfl
  unfold Meets
  rw [hsend, hreceive, ← List.append_nil [(Side.first, Wire.write message)]]
  refine (Program.Meets.send _ s t).bind ?_
  rw [ofFrame?_write h]
  exact Program.Meets.done _ _ s t

/-- A meeting over a link whose queues are empty leaves them empty, and the passages are all that
went over it. -/
theorem Meets.runBoth_ends {left : α × Source} {right : β × Source}
    (h : x.Meets y s t passages left right) :
    ∃ o, (Link.fresh s t).runBoth x.run y.run = some (o, .fresh left.2 right.2) ∧
      o.left.Ends .first passages (.ok left.1, left.2) ∧
      o.right.Ends .second passages (.ok right.1, right.2) := by
  obtain ⟨o, hrun, hl, hr⟩ := h
  refine ⟨o, ?_, hl, hr⟩
  unfold Link.runBoth Link.fresh
  rw [hrun, Option.map_some, hl.endpoint, hr.endpoint]

theorem Meets.runBoth {left : α × Source} {right : β × Source}
    (h : x.Meets y s t passages left right) :
    ∃ o, (Link.fresh s t).runBoth x.run y.run = some (o, .fresh left.2 right.2) ∧
      o.left.result = .ok left.1 ∧ o.right.result = .ok right.1 := by
  obtain ⟨o, hrun, hl, hr⟩ := h.runBoth_ends
  exact ⟨o, hrun, hl.result, hr.result⟩

variable {ι : Type} [Wire ι] [Wire.Lawful ι] {message : ι} {f : Unit → Attempt γ}
  {g : ι → Attempt δ} {c : γ × Source} {d : δ × Source}

theorem Meets.send_bind (hfits : Wire.Fits message)
    (h : (f ()).Meets (g message) s t passages c d) :
    (Attempt.send message >>= f).Meets (receive ι >>= g) s t
      ((.first, Wire.write message) :: passages) c d :=
  (Meets.send hfits s t).cons h

theorem Meets.receive_bind (hfits : Wire.Fits message)
    (h : (g message).Meets (f ()) s t passages d c) :
    (receive ι >>= g).Meets (Attempt.send message >>= f) s t
      ((.second, Wire.write message) :: passages) d c :=
  (Meets.send hfits t s).swap.cons h

/-- The last message is received and dealt with. -/
theorem Yields.receive_last {d : δ × Source} (hfits : Wire.Fits message)
    (h : (g message).Yields s d) :
    (receive ι >>= g).Meets (Attempt.send message) s t [(.second, Wire.write message)] d
      ((), t) := by
  have hpure := Meets.receive_bind hfits (h.meets (Yields.pure () t))
  rwa [bind_pure] at hpure

end Attempt

/-! ## Actions -/

namespace Action

variable {ρ α β : Type}

@[simp] theorem runIn_pure (a : α) (r : ρ) : (pure a : Action ρ α).runIn r = pure (a, r) := rfl

@[simp] theorem runIn_state (r : ρ) : (state : Action ρ ρ).runIn r = pure (r, r) := rfl

@[simp] theorem runIn_put (r' r : ρ) : (put r').runIn r = pure ((), r') := rfl

@[simp] theorem runIn_of (x : Attempt α) (r : ρ) :
    (of x : Action ρ α).runIn r = x >>= fun a => pure (a, r) := by
  show Program.bind (Program.bind _ _) _ = Program.bind _ _
  rw [Program.bind_assoc]
  congr 1
  funext result
  cases result <;> rfl

@[simp] theorem runIn_bind (x : Action ρ α) (f : α → Action ρ β) (r : ρ) :
    (x >>= f).runIn r = x.runIn r >>= fun p => (f p.1).runIn p.2 := by
  show Program.bind (Program.bind _ _) _ = Program.bind (Program.bind _ _) _
  rw [Program.bind_assoc, Program.bind_assoc]
  congr 1
  funext ⟨result, r'⟩
  cases result <;> rfl

@[simp] theorem runIn_map (f : α → β) (x : Action ρ α) (r : ρ) :
    (f <$> x).runIn r = (fun p => (f p.1, p.2)) <$> x.runIn r := by
  rw [map_eq_pure_bind, map_eq_pure_bind]
  exact runIn_bind x (fun a => pure (f a)) r

theorem runIn_within {σ : Type} (part : σ → ρ) (replace : σ → ρ → σ) (x : Action ρ α) (s : σ) :
    (within part replace x).runIn s = (fun p => (p.1, replace s p.2)) <$> x.runIn (part s) := by
  rw [map_eq_pure_bind]
  show Program.bind (Program.bind _ _) _ = Program.bind (Program.bind _ _) _
  rw [Program.bind_assoc, Program.bind_assoc]
  congr 1
  funext ⟨result, r⟩
  cases result <;> rfl

@[simp] theorem runIn_ite (p : Prop) [Decidable p] (x y : Action ρ α) (r : ρ) :
    (if p then x else y).runIn r = if p then x.runIn r else y.runIn r :=
  apply_ite (·.runIn r) p x y

end Action

end TwoParty
