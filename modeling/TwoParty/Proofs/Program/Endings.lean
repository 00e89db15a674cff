/-
Two parties side by side, of which one may give up. As long as both go on, a run is followed from
meeting to meeting; where one party has ended, the other one waits in vain and finds the channel
closed. `Concludes` follows a run to the result of the second party.
-/
import TwoParty.Proofs.Ensures

namespace TwoParty.Attempt

variable {α β γ δ : Type}

/-- The two attempts, run side by side with all queues empty, have an outcome unless `stuck` holds,
and the result of the second one satisfies `R`. -/
structure Concludes (x : Attempt α) (y : Attempt β) (s t : Source) (stuck : Prop)
    (R : Except ProtocolError β → Prop) : Prop where
  endless : Program.pair x.run y.run (.fresh s) (.fresh t) = none → stuck
  right_result (o : Program.Joint (Except ProtocolError α) (Except ProtocolError β)) :
    Program.pair x.run y.run (.fresh s) (.fresh t) = some o → R o.right.result

namespace Concludes

variable {x : Attempt α} {y : Attempt β} {s s' t t' : Source} {stuck : Prop}

section Outcomes

variable {R : Except ProtocolError β → Prop}

theorem of_pair_eq {p : Program γ} {q : Program (Except ProtocolError β)} {l r : Endpoint}
    {after : Program.Joint γ (Except ProtocolError β) →
      Program.Joint (Except ProtocolError α) (Except ProtocolError β)}
    (hpair : Program.pair x.run y.run (.fresh s) (.fresh t) = (Program.pair p q l r).map after)
    (hnone : Program.pair p q l r = none → stuck)
    (hsome : ∀ o, Program.pair p q l r = some o → R (after o).right.result) :
    x.Concludes y s t stuck R := by
  constructor
  · intro h
    rw [hpair, Option.map_eq_none_iff] at h
    exact hnone h
  · intro o h
    rw [hpair] at h
    obtain ⟨o', hrun, rfl⟩ := Option.map_eq_some_iff.1 h
    exact hsome o' hrun

theorem of_pair_eq_none (hpair : Program.pair x.run y.run (.fresh s) (.fresh t) = none)
    (hstuck : stuck) : x.Concludes y s t stuck R :=
  ⟨fun _ => hstuck, fun o h => by rw [hpair] at h; cases h⟩

theorem mono {R' : Except ProtocolError β → Prop} (h : x.Concludes y s t stuck R)
    (hR : ∀ result, R result → R' result) : x.Concludes y s t stuck R' :=
  ⟨h.endless, fun o ho => hR _ (h.right_result o ho)⟩

/-- Both end by themselves. -/
theorem done {result : Except ProtocolError α} {result' : Except ProtocolError β}
    (h : x.run.Yields s (result, s')) (h' : y.run.Yields t (result', t')) (hR : R result') :
    x.Concludes y s t stuck R := by
  obtain ⟨o, hrun, -, hr⟩ := h.meets h'
  refine ⟨fun hnone => ?_, fun o' hsome => ?_⟩
  · cases hrun.symm.trans hnone
  · cases hrun.symm.trans hsome
    rw [hr.result]
    exact hR

end Outcomes

/-! ## Going on -/

section Phases

variable {f : α → Attempt γ} {g : β → Attempt δ} {R : Except ProtocolError δ → Prop}

/-- A phase goes by, and the rest follows. -/
theorem meet {passages : List Passage} {a : α} {b : β}
    (h : x.Meets y s t passages (a, s') (b, t')) (h' : (f a).Concludes (g b) s' t' stuck R) :
    (x >>= f).Concludes (y >>= g) s t stuck R := by
  obtain ⟨o, hrun, hl, hr⟩ := h
  have hpair := Program.pair_bind x.run _ _ _ y.run (onward f) (onward g) _ _ o hrun
    hl.received_none_not_mem hr.received_none_not_mem
  rw [hl.result, hl.endpoint, hr.result, hr.endpoint, ← run_bind, ← run_bind] at hpair
  exact of_pair_eq hpair h'.endless h'.right_result

theorem left {y : Attempt δ} {a : α} (h : x.Yields s (a, s'))
    (h' : (f a).Concludes y s' t stuck R) : (x >>= f).Concludes y s t stuck R := by
  have hmeet := meet (g := fun _ => y) (h.meets (Yields.pure () t)) h'
  rwa [pure_bind] at hmeet

theorem right {x : Attempt γ} {b : β} (h : y.Yields t (b, t'))
    (h' : x.Concludes (g b) s t' stuck R) : x.Concludes (y >>= g) s t stuck R := by
  have hmeet := meet (f := fun _ => x) ((Yields.pure () s).meets h) h'
  rwa [pure_bind] at hmeet

variable {G : CyclicGroup}

/-- The first party draws an exponent, unless the draw does not end. -/
theorem scalar_left {f : G.Scalar → Attempt γ} {y : Attempt δ}
    (endless : G.nextScalar s = none → stuck)
    (drawn : ∀ a s', G.nextScalar s = some (a, s') → (f a).Concludes y s' t stuck R) :
    (Attempt.of G.randomScalar >>= f).Concludes y s t stuck R := by
  rcases hdraw : G.nextScalar s with _ | ⟨a, s'⟩
  · have hnone : (Endpoint.fresh s).source.draw G.scalarDraw.1 G.scalarDraw.2 = none :=
      Option.map_eq_none_iff.1 hdraw
    have hpair : Program.pair (Attempt.of G.randomScalar >>= f).run y.run (.fresh s) (.fresh t) =
        none := by
      rw [run_of_bind]
      show Program.pair (Program.draw G.scalarDraw.1 G.scalarDraw.2 _) _ _ _ = none
      rw [Program.pair, hnone]
    exact of_pair_eq_none hpair (endless hdraw)
  · exact left (.of (CyclicGroup.yields_randomScalar hdraw)) (drawn a s' hdraw)

/-- The second party draws an exponent, unless the draw does not end. -/
theorem scalar_right {x : Attempt γ} {g : G.Scalar → Attempt δ}
    (endless : G.nextScalar t = none → stuck)
    (drawn : ∀ b t', G.nextScalar t = some (b, t') → x.Concludes (g b) s t' stuck R) :
    x.Concludes (Attempt.of G.randomScalar >>= g) s t stuck R := by
  rcases hdraw : G.nextScalar t with _ | ⟨b, t'⟩
  · have hnone : (Endpoint.fresh t).source.draw G.scalarDraw.1 G.scalarDraw.2 = none :=
      Option.map_eq_none_iff.1 hdraw
    have hpair : Program.pair x.run (Attempt.of G.randomScalar >>= g).run (.fresh s) (.fresh t) =
        none := by
      rw [run_of_bind]
      show Program.pair _ (Program.draw G.scalarDraw.1 G.scalarDraw.2 _) _ _ = none
      rw [Program.pair_draw_right, hnone]
      rfl
    exact of_pair_eq_none hpair (endless hdraw)
  · exact right (.of (CyclicGroup.yields_randomScalar hdraw)) (drawn b t' hdraw)

variable {ι : Type} [Wire ι] [Wire.Lawful ι] {message : ι}

theorem send {f : Unit → Attempt γ} {g : ι → Attempt δ} (hfits : Wire.Fits message)
    (h : (f ()).Concludes (g message) s t stuck R) :
    (Attempt.send message >>= f).Concludes (Attempt.receive ι >>= g) s t stuck R :=
  meet (Meets.send hfits s t) h

theorem receive {f : ι → Attempt γ} {g : Unit → Attempt δ} (hfits : Wire.Fits message)
    (h : (f message).Concludes (g ()) s t stuck R) :
    (Attempt.receive ι >>= f).Concludes (Attempt.send message >>= g) s t stuck R :=
  meet (Meets.send hfits t s).swap h

end Phases

/-! ## Giving up -/

section Ends

variable {ι : Type} [Wire ι]

/-- Nothing comes to a party that waits alone. -/
theorem run_receive_fresh (f : ι → Attempt γ) (s : Source) :
    (Attempt.receive ι >>= f).run.run (.fresh s) =
      some ⟨.error (.channel .closed), .fresh s, [.received none]⟩ := by
  rw [run_bind, Program.run_bind, run_receive]
  rfl

/-- The first party has ended, and the second one waits for a message. -/
theorem left_gone {g : ι → Attempt δ} {R : Except ProtocolError δ → Prop}
    {result : Except ProtocolError α} (h : x.run.Yields s (result, s'))
    (hR : R (.error (.channel .closed))) :
    x.Concludes (Attempt.receive ι >>= g) s t stuck R := by
  obtain ⟨o, hrun, hl, hr⟩ := h.meets_done () t
  have hpair := Program.pair_bind x.run _ _ _ (.done ()) .done
    (fun _ => (Attempt.receive ι >>= g).run) _ _ o hrun
    hl.received_none_not_mem hr.received_none_not_mem
  rw [hl.result, hl.endpoint, hr.endpoint, Program.bind_done] at hpair
  have hrest : Program.pair (.done result) (Attempt.receive ι >>= g).run (.fresh s') (.fresh t) =
      some _ := congrArg (Option.map _) (run_receive_fresh g t)
  refine of_pair_eq hpair (fun hnone => ?_) fun o' hsome => ?_
  · cases hrest.symm.trans hnone
  · cases hrest.symm.trans hsome
    exact hR

/-- The second party has ended, and the first one waits for a message. -/
theorem right_gone {f : ι → Attempt γ} {R : Except ProtocolError β → Prop}
    {result : Except ProtocolError β} (h : y.run.Yields t (result, t')) (hR : R result) :
    (Attempt.receive ι >>= f).Concludes y s t stuck R := by
  obtain ⟨o, hrun, hl, hr⟩ := (h.meets_done () s).swap
  have hpair := Program.pair_bind (.done ()) _ _ _ y.run
    (fun _ => (Attempt.receive ι >>= f).run) .done _ _ o hrun
    hl.received_none_not_mem hr.received_none_not_mem
  rw [hl.endpoint, hr.result, hr.endpoint, Program.bind_done] at hpair
  have hrest : Program.pair (Attempt.receive ι >>= f).run (.done result) (.fresh s) (.fresh t') =
      some ⟨⟨.error (.channel .closed), .fresh s, [.received none]⟩,
        ⟨result, (Endpoint.fresh t').deliver [], []⟩⟩ := by
    rw [Program.pair_done_right, run_receive_fresh]
    rfl
  refine of_pair_eq hpair (fun hnone => ?_) fun o' hsome => ?_
  · cases hrest.symm.trans hnone
  · cases hrest.symm.trans hsome
    exact hR

end Ends

end Concludes

end TwoParty.Attempt
