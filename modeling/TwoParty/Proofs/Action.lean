/-
What an action does to the state of its role. A steady action leaves the state as it was, however
it ends. An atomic one changes it only when it succeeds: nothing is lost when it is run as an
attempt, which has no state left after a failure. A role goes through any number of calls; between
them its surroundings may change in any way.
-/
import TwoParty.Proofs.Ensures

namespace TwoParty

namespace Action

variable {ρ α β : Type}

/-! ## Runs -/

/-- What follows a result in the state that it came with; an error is kept. -/
def onward (f : α → Action ρ β) :
    Except ProtocolError α × ρ → Program (Except ProtocolError β × ρ)
  | (.ok a, r) => (f a).run r
  | (.error error, r) => .done (.error error, r)

theorem run_bind (x : Action ρ α) (f : α → Action ρ β) (r : ρ) :
    (x >>= f).run r = (x.run r).bind (onward f) := by
  show Program.bind _ _ = _
  congr 1
  funext ⟨result, r'⟩
  cases result with
  | ok a => rfl
  | error error => rfl

theorem run_state_bind (f : ρ → Action ρ β) (r : ρ) : (state >>= f).run r = (f r).run r := rfl

/-- A run of which the result is changed at its end. -/
theorem outcome_of_map {x : Action ρ α} {f : α → β} {r : ρ} {e : Endpoint}
    {o : Outcome (Except ProtocolError β × ρ)} (hrun : ((f <$> x).run r).run e = some o) :
    ∃ o', (x.run r).run e = some o' ∧ o.result = (o'.result.1.map f, o'.result.2) := by
  rw [map_eq_pure_bind, run_bind, Program.run_bind] at hrun
  rcases hx : (x.run r).run e with _ | ⟨⟨result, r'⟩, e', history⟩
  · rw [hx] at hrun
    cases hrun
  · rw [hx] at hrun
    cases result with
    | ok a => cases hrun; exact ⟨_, rfl, rfl⟩
    | error error => cases hrun; exact ⟨_, rfl, rfl⟩

/-! ## Steady actions -/

/-- Whatever comes of the action, the state is as it was. -/
def Steady (x : Action ρ α) : Prop :=
  ∀ r, ∃ y : Attempt α, x.run r = (fun result => (result, r)) <$> y.run

namespace Steady

variable {x : Action ρ α} {f : α → Action ρ β}

theorem pure (a : α) : (Pure.pure a : Action ρ α).Steady := fun _ => ⟨Pure.pure a, rfl⟩

theorem of (y : Attempt α) : (Action.of y : Action ρ α).Steady := fun _ => ⟨y, rfl⟩

theorem bind (h : x.Steady) (hf : ∀ a, (f a).Steady) : (x >>= f).Steady := by
  intro r
  obtain ⟨y, hy⟩ := h r
  choose z hz using fun a => hf a r
  refine ⟨y >>= z, ?_⟩
  rw [run_bind, hy, Attempt.run_bind]
  show (y.run.bind _).bind _ = (y.run.bind _).bind _
  rw [Program.bind_assoc, Program.bind_assoc]
  congr 1
  funext result
  cases result with
  | ok a => exact hz a
  | error error => rfl

/-- The state can be read. -/
theorem state_bind {f : ρ → Action ρ β} (hf : ∀ r, (f r).Steady) : (state >>= f).Steady :=
  fun r => hf r r

theorem ite {p : Prop} [Decidable p] {y : Action ρ α} (hx : x.Steady) (hy : y.Steady) :
    (if p then x else y).Steady := by
  split
  · exact hx
  · exact hy

/-- A run ends in the state that it began in. -/
theorem keeps (h : x.Steady) {r : ρ} {e : Endpoint}
    {o : Outcome (Except ProtocolError α × ρ)} (hrun : (x.run r).run e = some o) :
    o.result.2 = r := by
  obtain ⟨y, hy⟩ := h r
  have hensures : (x.run r).Ensures e True fun o => o.result.2 = r := by
    rw [hy]
    refine Program.ensures_bind.2 (Program.Ensures.intro (fun _ => trivial) fun o _ => rfl)
  exact hensures.outcome hrun

end Steady

/-! ## Atomic actions -/

/-- How an action ends that succeeds with a result and a state, or fails in the state `r`. -/
def settled (r : ρ) : Except ProtocolError (α × ρ) → Except ProtocolError α × ρ
  | .ok (a, r') => (.ok a, r')
  | .error error => (.error error, r)

/-- The action either succeeds or leaves the state as it was. -/
def Atomic (x : Action ρ α) : Prop :=
  ∀ r, x.run r = settled r <$> (x.runIn r).run

/-- The action does not fail and leaves the state alone. -/
def Sure (x : Action ρ α) : Prop :=
  ∀ r, ∃ p : Program α, x.run r = (fun a => (.ok a, r)) <$> p

theorem Steady.atomic {x : Action ρ α} (h : x.Steady) : x.Atomic := by
  intro r
  obtain ⟨y, hy⟩ := h r
  show _ = ((x.run r).bind _).bind _
  rw [hy]
  show y.run.bind _ = ((y.run.bind _).bind _).bind _
  rw [Program.bind_assoc, Program.bind_assoc]
  congr 1
  funext result
  cases result with
  | ok a => rfl
  | error error => rfl

namespace Atomic

variable {x : Action ρ α} {f : α → Action ρ β}

theorem bind (h : x.Steady) (hf : ∀ a, (f a).Atomic) : (x >>= f).Atomic := by
  intro r
  obtain ⟨y, hy⟩ := h r
  show _ = (((x >>= f).run r).bind _).bind _
  rw [run_bind, hy]
  show (y.run.bind _).bind _ = (((y.run.bind _).bind _).bind _).bind _
  simp only [Program.bind_assoc]
  congr 1
  funext result
  cases result with
  | ok a => exact (hf a r).trans (Program.bind_assoc _ _ _)
  | error error => rfl

theorem state_bind {f : ρ → Action ρ β} (hf : ∀ r, (f r).Atomic) : (state >>= f).Atomic :=
  fun r => hf r r

theorem put (r' : ρ) : (Action.put r').Atomic := fun _ => rfl

/-- What cannot fail may follow the change. -/
theorem put_bind {r' : ρ} {f : Unit → Action ρ β} (hf : (f ()).Sure) :
    (Action.put r' >>= f).Atomic := by
  intro r
  obtain ⟨p, hp⟩ := hf r'
  show (f ()).run r' = (((f ()).run r').bind _).bind _
  rw [hp]
  show p.bind _ = ((p.bind _).bind _).bind _
  rw [Program.bind_assoc, Program.bind_assoc]
  rfl

theorem ite {p : Prop} [Decidable p] {y : Action ρ α} (hx : x.Atomic) (hy : y.Atomic) :
    (if p then x else y).Atomic := by
  split
  · exact hx
  · exact hy

/-- What is ensured of the attempt is ensured of the action. -/
theorem ensures (h : x.Atomic) {r : ρ} {e : Endpoint} {stuck : Prop}
    {Q : Outcome (Except ProtocolError α × ρ) → Prop}
    (hrun : (x.runIn r).Ensures e stuck fun o => Q ⟨settled r o.result, o.endpoint, o.history⟩) :
    (x.run r).Ensures e stuck Q := by
  rw [h r]
  refine Program.ensures_bind.2 (Program.Ensures.mono hrun fun o ho => ?_)
  show Q ⟨_, _, o.history ++ []⟩
  rw [List.append_nil]
  exact ho

/-- A run that fails ends in the state that it began in. -/
theorem keeps (h : x.Atomic) {r : ρ} {e : Endpoint} {o : Outcome (Except ProtocolError α × ρ)}
    (hrun : (x.run r).run e = some o) {error : ProtocolError} (ho : o.result.1 = .error error) :
    o.result.2 = r := by
  have hensures : (x.run r).Ensures e True fun o => o.result.1 = .error error → o.result.2 = r := by
    refine h.ensures (Program.Ensures.intro (fun _ => trivial) fun o _ => ?_)
    rcases o.result with error | ⟨a, r'⟩
    · exact fun _ => rfl
    · exact nofun
  exact hensures.outcome hrun ho

end Atomic

end Action

/-! ## Calls -/

/-- A call of an operation of a role: the endpoint at which it was run, and how that ended. -/
structure Call (Op Reply ρ : Type) where
  op : Op
  start : Endpoint
  outcome : Outcome (Except ProtocolError Reply × ρ)

section Calls

variable {Op Reply ρ : Type}

/-- The calls are made one after the other, of which each finds the state that the one before left;
the last leaves the state `last`. Each has an endpoint of its own, with any randomness, any frames
waiting, and any sends that are going to be refused. -/
inductive Calls (perform : Op → Action ρ Reply) (first : ρ) :
    List (Call Op Reply ρ) → (last : ρ) → Prop where
  | nil : Calls perform first [] first
  | snoc {calls : List (Call Op Reply ρ)} {r : ρ} (h : Calls perform first calls r) (op : Op)
    (e : Endpoint) {o : Outcome (Except ProtocolError Reply × ρ)}
    (hrun : ((perform op).run r).run e = some o) :
    Calls perform first (calls ++ [⟨op, e, o⟩]) o.result.2

namespace Calls

variable {perform : Op → Action ρ Reply} {first last : ρ} {calls : List (Call Op Reply ρ)}
  {call : Call Op Reply ρ}

theorem nil_iff : Calls perform first [] last ↔ last = first := by
  constructor
  · generalize hnil : ([] : List (Call Op Reply ρ)) = all
    intro h
    cases h with
    | nil => rfl
    | snoc => exact absurd hnil (by simp)
  · rintro rfl
    exact .nil

theorem snoc_iff : Calls perform first (calls ++ [call]) last ↔ ∃ r, Calls perform first calls r ∧
    ((perform call.op).run r).run call.start = some call.outcome ∧
      last = call.outcome.result.2 := by
  constructor
  · generalize hsnoc : calls ++ [call] = all
    intro h
    cases h with
    | nil => exact absurd hsnoc (by simp)
    | snoc h op e hrun =>
      obtain ⟨rfl, hcall⟩ := List.append_inj' hsnoc rfl
      cases hcall
      exact ⟨_, h, hrun, rfl⟩
  · rintro ⟨r, h, hrun, rfl⟩
    exact h.snoc call.op call.start hrun

/-- What every call preserves holds after any calls. -/
theorem invariant {I : ρ → Prop} (h : Calls perform first calls last) (hfirst : I first)
    (hstep : ∀ op r e o, I r → ((perform op).run r).run e = some o → I o.result.2) : I last := by
  induction h with
  | nil => exact hfirst
  | snoc _ op e hrun ih => exact hstep op _ e _ ih hrun

/-- Calls can be cut in two. -/
theorem append_iff {later : List (Call Op Reply ρ)} :
    Calls perform first (calls ++ later) last ↔
      ∃ r, Calls perform first calls r ∧ Calls perform r later last := by
  induction later using List.reverseRecOn generalizing last with
  | nil =>
    simp [nil_iff]
  | append_singleton later call ih =>
    rw [← List.append_assoc, snoc_iff]
    simp only [ih, snoc_iff]
    constructor
    · rintro ⟨r, ⟨r', h, hlater⟩, hrun, rfl⟩
      exact ⟨r', h, r, hlater, hrun, rfl⟩
    · rintro ⟨r', h, r, hlater, hrun, rfl⟩
      exact ⟨r, ⟨r', h, hlater⟩, hrun, rfl⟩

theorem cons_iff : Calls perform first (call :: calls) last ↔
    ((perform call.op).run first).run call.start = some call.outcome ∧
      Calls perform call.outcome.result.2 calls last := by
  rw [← List.singleton_append, append_iff, ← List.nil_append [call]]
  simp only [snoc_iff, nil_iff]
  constructor
  · rintro ⟨_, ⟨_, rfl, hrun, rfl⟩, h⟩
    exact ⟨hrun, h⟩
  · rintro ⟨hrun, h⟩
    exact ⟨_, ⟨_, rfl, hrun, rfl⟩, h⟩

end Calls

end Calls

end TwoParty
