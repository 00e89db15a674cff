/-
Phases in which all frames go one way. The sender does not wait for anything, so it can go through
its half alone; what it sent stays in the queue, and the receiver goes through the other half at any
later time, whatever has come behind in the meantime. `Attempt.Absorbs` is such a half: the receiver
takes the frames that wait for it and sends none.
-/
import TwoParty.Proofs.Attempt

namespace TwoParty

namespace Program

variable {α β : Type}

/-! ## Halves of a run -/

/-- A party that waits has received something when the run ends, or found the channel closed. -/
theorem exists_received_of_pair (next : Option Bytes → Program α) (q : Program β) {l r : Endpoint}
    {o : Joint α β} (h : pair (receive next) q l r = some o) :
    ∃ frame?, .received frame? ∈ o.left.history := by
  rcases hl : l.inbox with _ | ⟨frame, inbox⟩
  · induction q generalizing l r o with
    | done b =>
      rw [pair_done_right, run, hl] at h
      obtain ⟨o₁, h₁, rfl⟩ := Option.map_eq_some_iff.1 h
      obtain ⟨o₂, -, rfl⟩ := Option.map_eq_some_iff.1 h₁
      exact ⟨_, List.mem_cons_self⟩
    | draw length accept nextq ih =>
      rw [pair_draw_right] at h
      obtain ⟨⟨block, source⟩, -, h⟩ := Option.bind_eq_some_iff.1 h
      exact ih block h hl
    | send frame nextq ih =>
      by_cases hr : r.line 0 = true
      · -- the frame is what the left party waits for
        have hd : (l.deliver [frame]).inbox = [frame] := by simp [Endpoint.deliver, hl]
        rw [pair_send_right _ _ _ _ _ hr, pair] at h
        simp only [hd] at h
        obtain ⟨o₁, h₁, rfl⟩ := Option.map_eq_some_iff.1 h
        obtain ⟨o₂, -, rfl⟩ := Option.map_eq_some_iff.1 h₁
        exact ⟨_, List.mem_cons_self⟩
      · rw [pair_refused_right _ _ _ _ _ (by simpa using hr)] at h
        obtain ⟨o₁, h₁, rfl⟩ := Option.map_eq_some_iff.1 h
        have hreceived := ih false h₁ hl
        exact hreceived
    | receive nextq ih =>
      rcases hi : r.inbox with _ | ⟨frame, inbox⟩
      · simp only [pair, hl, serve, hi] at h
        obtain ⟨o₁, h₁, rfl⟩ := Option.map_eq_some_iff.1 h
        obtain ⟨o₂, -, rfl⟩ := Option.map_eq_some_iff.1 h₁
        exact ⟨_, List.mem_cons_self⟩
      · rw [pair_receive_right _ _ _ _ hi] at h
        obtain ⟨o₁, h₁, rfl⟩ := Option.map_eq_some_iff.1 h
        have hreceived := ih (some frame) h₁ hl
        exact hreceived
    | note event nextq ih =>
      rw [pair_note_right] at h
      obtain ⟨o₁, h₁, rfl⟩ := Option.map_eq_some_iff.1 h
      have hreceived := ih h₁ hl
      exact hreceived
  · rw [pair] at h
    simp only [hl] at h
    obtain ⟨o₁, -, rfl⟩ := Option.map_eq_some_iff.1 h
    exact ⟨_, List.mem_cons_self⟩

/-- A run in which the left party receives nothing is one of the left party alone, and then one of
the right party with what the left one sent. -/
theorem halves_of_pair (p : Program α) (q : Program β) {l r : Endpoint} {o : Joint α β}
    (h : pair p q l r = some o) (hno : ∀ frame?, .received frame? ∉ o.left.history) :
    ∃ o₁ o₂, p.run l = some o₁ ∧ q.run (r.deliver o₁.sent) = some o₂ ∧
      o = ⟨{ o₁ with endpoint := o₁.endpoint.deliver o₂.sent }, o₂⟩ := by
  induction p generalizing l r o with
  | done a =>
    obtain ⟨o₂, h₂, rfl⟩ := Option.map_eq_some_iff.1 h
    have hr : r.deliver (Outcome.sent ⟨a, l, []⟩) = r := by simp [Endpoint.deliver, Outcome.sent]
    exact ⟨_, o₂, rfl, by rw [hr]; exact h₂, rfl⟩
  | draw length accept next ih =>
    rw [pair] at h
    split at h
    · rename_i block source hd
      have hrun : (draw length accept next).run l = (next block).run { l with source } := by
        rw [run, hd]
      rw [hrun]
      exact ih block h hno
    · cases h
  | send frame next ih =>
    rw [pair] at h
    rw [run]
    split at h
    · rename_i hline
      obtain ⟨o', h', rfl⟩ := Option.map_eq_some_iff.1 h
      obtain ⟨o₁, o₂, h₁, h₂, rfl⟩ := ih true h' fun x hx => hno x (List.mem_cons_of_mem _ hx)
      have hr : (r.deliver [frame]).deliver o₁.sent = r.deliver (o₁.after (.sent frame)).sent := by
        simp [Endpoint.deliver, Outcome.sent, Outcome.after]
      rw [if_pos hline, h₁]
      exact ⟨_, o₂, rfl, by rw [← hr]; exact h₂, rfl⟩
    · rename_i hline
      obtain ⟨o', h', rfl⟩ := Option.map_eq_some_iff.1 h
      obtain ⟨o₁, o₂, h₁, h₂, rfl⟩ := ih false h' fun x hx => hno x (List.mem_cons_of_mem _ hx)
      rw [if_neg hline, h₁]
      exact ⟨_, o₂, rfl, h₂, rfl⟩
  | receive next ih =>
    obtain ⟨frame?, hreceived⟩ := exists_received_of_pair next q h
    exact absurd hreceived (hno frame?)
  | note event next ih =>
    rw [pair] at h
    rw [run]
    obtain ⟨o', h', rfl⟩ := Option.map_eq_some_iff.1 h
    obtain ⟨o₁, o₂, h₁, h₂, rfl⟩ := ih h' fun x hx => hno x (List.mem_cons_of_mem _ hx)
    rw [h₁]
    exact ⟨_, o₂, rfl, h₂, rfl⟩

/-- Frames that come behind those that are received stay in the queue. -/
theorem run_deliver (p : Program α) {e : Endpoint} {o : Outcome α} (h : p.run e = some o)
    (hno : .received none ∉ o.history) (later : List Bytes) :
    p.run (e.deliver later) = some { o with endpoint := o.endpoint.deliver later } := by
  induction p generalizing e o with
  | done a => cases h; rfl
  | draw length accept next ih =>
    rw [run] at h ⊢
    split at h
    · rename_i block source hd
      simp only [Endpoint.deliver, hd]
      exact ih block h hno
    · cases h
  | send frame next ih =>
    rw [run] at h ⊢
    have hline : (e.deliver later).line = e.line := rfl
    rw [hline]
    split at h
    · rename_i htaken
      obtain ⟨o', h', rfl⟩ := Option.map_eq_some_iff.1 h
      have hnext := ih true h' fun hm => hno (List.mem_cons_of_mem _ hm)
      rw [if_pos htaken]
      exact congrArg (Option.map _) hnext
    · rename_i htaken
      obtain ⟨o', h', rfl⟩ := Option.map_eq_some_iff.1 h
      have hnext := ih false h' fun hm => hno (List.mem_cons_of_mem _ hm)
      rw [if_neg htaken]
      exact congrArg (Option.map _) hnext
  | receive next ih =>
    rw [run] at h ⊢
    split at h
    · rename_i frame inbox hi
      obtain ⟨o', h', rfl⟩ := Option.map_eq_some_iff.1 h
      have hnext := ih (some frame) h' fun hm => hno (List.mem_cons_of_mem _ hm)
      have hd : (e.deliver later).inbox = frame :: (inbox ++ later) := by
        simp [Endpoint.deliver, hi]
      simp only [hd]
      exact congrArg (Option.map _) hnext
    · -- an empty queue would have shown the channel closed
      obtain ⟨o', h', rfl⟩ := Option.map_eq_some_iff.1 h
      exact absurd List.mem_cons_self hno
  | note event next ih =>
    rw [run] at h ⊢
    obtain ⟨o', h', rfl⟩ := Option.map_eq_some_iff.1 h
    have hnext := ih h' fun hm => hno (List.mem_cons_of_mem _ hm)
    exact congrArg (Option.map _) hnext

end Program

/-! ## Links with a backlog -/

/-- A connection with frames that the second side has not received yet. -/
def Link.lagging (s t : Source) (frames : List Bytes) : Link :=
  ⟨.fresh s, ⟨t, frames, fun _ => true⟩⟩

namespace Attempt

variable {α β γ δ : Type} {x : Attempt α} {y : Attempt β} {s s' t t' : Source}
  {frames frames' : List Bytes} {a : α} {b : β}

/-- The attempt takes the frames that wait for it, sends none, and succeeds, whatever it could
draw. -/
def Absorbs (y : Attempt β) (frames : List Bytes) (b : β) : Prop :=
  ∀ t, ∃ o, y.run.run ⟨t, frames, fun _ => true⟩ = some o ∧ o.result = .ok b ∧
    o.endpoint = .fresh t ∧ o.sent = [] ∧ .received none ∉ o.history

namespace Absorbs

theorem pure (b : β) : (pure b : Attempt β).Absorbs [] b :=
  fun _ => ⟨_, rfl, rfl, rfl, rfl, by simp⟩

/-- The frames of the second attempt wait behind those of the first. -/
theorem bind {g : β → Attempt γ} {c : γ} (h : y.Absorbs frames b) (h' : (g b).Absorbs frames' c) :
    (y >>= g).Absorbs (frames ++ frames') c := by
  intro t
  obtain ⟨o, hy, hb, hend, hsent, hopen⟩ := h t
  obtain ⟨o', hg, hc, hend', hsent', hopen'⟩ := h' t
  refine ⟨o.andThen o', ?_, hc, hend', ?_, ?_⟩
  · have hy' := Program.run_deliver y.run hy hopen frames'
    rw [hend] at hy'
    rw [run_bind, Program.run_bind]
    show Option.bind (y.run.run (Endpoint.deliver ⟨t, frames, fun _ => true⟩ frames')) _ = _
    rw [hy', Option.bind_some, hb]
    show Option.map _ ((g b).run.run ⟨t, frames', fun _ => true⟩) = _
    rw [hg]
    rfl
  · show List.filterMap _ (o.history ++ o'.history) = []
    rw [List.filterMap_append]
    exact List.append_eq_nil_iff.2 ⟨hsent, hsent'⟩
  · exact fun hm => (List.mem_append.1 hm).elim hopen hopen'

theorem map (h : y.Absorbs frames b) (φ : β → γ) : (φ <$> y).Absorbs frames (φ b) := by
  rw [map_eq_pure_bind, ← List.append_nil frames]
  exact h.bind (.pure (φ b))

/-- The second side catches up with what is first in its queue. -/
theorem run_second (h : y.Absorbs frames b) (s t : Source) (later : List Bytes) :
    ∃ o, (Link.lagging s t (frames ++ later)).run .second y.run =
      some (o, .lagging s t later) ∧ o.result = .ok b := by
  obtain ⟨o, hrun, hresult, hend, hsent, hopen⟩ := h t
  refine ⟨{ o with endpoint := o.endpoint.deliver later }, ?_, hresult⟩
  have hidle : (Endpoint.fresh s).deliver o.sent = .fresh s := by
    rw [hsent]
    rfl
  unfold Link.run
  show Option.map _ (y.run.run (Endpoint.deliver ⟨t, frames, fun _ => true⟩ later)) = _
  rw [Program.run_deliver y.run hrun hopen later, Option.map_some, hend]
  show some (_, Link.mk ((Endpoint.fresh s).deliver o.sent) _) = _
  rw [hidle]
  rfl

/-- The second side catches up while the first one has already begun with what follows. -/
theorem runBoth (h : y.Absorbs frames b) {g : β → Attempt δ} {passages : List Passage}
    {left : α × Source} {right : δ × Source} (h' : x.Meets (g b) s t passages left right) :
    ∃ o, (Link.lagging s t frames).runBoth x.run (y >>= g).run =
        some (o, .fresh left.2 right.2) ∧
      o.left.result = .ok left.1 ∧ o.right.result = .ok right.1 := by
  obtain ⟨o, hrun, hresult, hend, hsent, hopen⟩ := h t
  obtain ⟨o', hpair, hl, hr⟩ := h'
  have hidle : (Endpoint.fresh s).deliver o.sent = .fresh s := by
    rw [hsent]
    rfl
  refine ⟨⟨o'.left, o.andThen o'.right⟩, ?_, hl.result, hr.result⟩
  unfold Link.runBoth Link.lagging
  rw [run_bind, Program.pair_bind_right _ _ _ hrun hopen, hresult, hend, hidle, onward, hpair]
  show some (_, Link.mk o'.left.endpoint o'.right.endpoint) = _
  rw [hl.endpoint, hr.endpoint]
  rfl

end Absorbs

namespace Meets

/-- Of a phase in which all frames go to the second side, either side can run its half alone: the
first one sends all frames, and the second one finds them in its queue. -/
theorem halves (h : x.Meets y s t (frames.map (Side.first, ·)) (a, s') (b, t')) :
    (∃ o, x.run.run (.fresh s) = some o ∧ o.result = .ok a ∧ o.endpoint = .fresh s' ∧
        o.sent = frames) ∧
      ∃ o, y.run.run ⟨t, frames, fun _ => true⟩ = some o ∧ o.result = .ok b ∧
        o.endpoint = .fresh t' ∧ o.sent = [] ∧ .received none ∉ o.history := by
  obtain ⟨o, hrun, hl, hr⟩ := h
  have hleft : o.left.traffic = frames.map .sent := by
    rw [hl.traffic, List.map_map]
    rfl
  have hright : o.right.traffic = frames.map fun frame => .received (some frame) := by
    rw [hr.traffic, List.map_map]
    rfl
  have hno : ∀ frame?, .received frame? ∉ o.left.history := by
    intro frame? hm
    have htraffic : .received frame? ∈ o.left.traffic := List.mem_filter.2 ⟨hm, rfl⟩
    rw [hleft] at htraffic
    obtain ⟨frame, -, hframe⟩ := List.mem_map.1 htraffic
    cases hframe
  obtain ⟨o₁, o₂, h₁, h₂, rfl⟩ := Program.halves_of_pair x.run y.run hrun hno
  have hsent₁ : o₁.sent = frames := by
    rw [o₁.sent_eq_of_traffic hleft]
    simp [Outcome.sent, List.filterMap_map]
  have hsent₂ : o₂.sent = [] := by
    rw [o₂.sent_eq_of_traffic hright]
    simp [Outcome.sent, List.filterMap_map]
  have hendpoint : o₁.endpoint = .fresh s' := by
    have := hl.endpoint
    simp only [hsent₂, Endpoint.deliver, List.append_nil] at this
    exact this
  rw [hsent₁] at h₂
  exact ⟨⟨o₁, h₁, hl.result, hendpoint, hsent₁⟩,
    o₂, h₂, hr.result, hr.endpoint, hsent₂, hr.received_none_not_mem⟩

/-- The first side goes ahead: its frames wait behind those of earlier phases. -/
theorem run_first (h : x.Meets y s t (frames.map (Side.first, ·)) (a, s') (b, t')) (t₀ : Source)
    (earlier : List Bytes) :
    ∃ o, (Link.lagging s t₀ earlier).run .first x.run =
      some (o, .lagging s' t₀ (earlier ++ frames)) ∧ o.result = .ok a := by
  obtain ⟨⟨o, hrun, hresult, hendpoint, hsent⟩, -⟩ := h.halves
  refine ⟨o, ?_, hresult⟩
  unfold Link.run
  show Option.map _ (x.run.run (.fresh s)) = _
  rw [hrun, Option.map_some, hendpoint, hsent]
  rfl

end Meets

/-- The second side need not run its half at once. -/
theorem Absorbs.of_meets (h : ∀ t, x.Meets y s t (frames.map (Side.first, ·)) (a, s') (b, t)) :
    y.Absorbs frames b :=
  fun t => (h t).halves.2

end Attempt

end TwoParty
