/-
Runs in parts: where two programs have ended side by side and neither found the channel closed,
whatever continues them runs from there. So a protocol is followed phase by phase. `Yields` is a
phase of one party that keeps to itself, and `Meets` a phase of both, with the frames they exchange
and all queues empty before and after it.
-/
import TwoParty.Proofs.Program.Interleaving

namespace TwoParty

/-! ## Activities and frames -/

/-- A frame and the side that sent it. -/
abbrev Passage := Side × Bytes

/-- What a passage is to one of the sides. -/
def Passage.activity (side : Side) (p : Passage) : Activity :=
  if p.1 = side then .sent p.2 else .received (some p.2)

/-- The passage under the other naming of the sides. -/
def Passage.flip (p : Passage) : Passage := (p.1.other, p.2)

/-- Whether an activity is with the channel. -/
def Activity.isTraffic : Activity → Bool
  | .noted _ => false
  | _ => true

/-- What was done with the channel, in order. -/
def Outcome.traffic {α : Type} (o : Outcome α) : List Activity :=
  o.history.filter Activity.isTraffic

/-- What was sent is part of the traffic. -/
theorem Outcome.sent_eq_of_traffic {α : Type} (o : Outcome α) {traffic : List Activity}
    (h : o.traffic = traffic) : o.sent = (Outcome.mk o.result o.endpoint traffic).sent := by
  subst h
  unfold sent Outcome.traffic
  rw [List.filterMap_filter]
  congr 1
  funext activity
  cases activity <;> rfl

/-- An endpoint to which nothing has come and from which everything gets through. -/
def Endpoint.fresh (source : Source) : Endpoint :=
  ⟨source, [], fun _ => true⟩

/-- Two such endpoints, connected. -/
def Link.fresh (s t : Source) : Link :=
  ⟨.fresh s, .fresh t⟩

namespace Program

variable {α β γ δ : Type}

/-! ## Sequential composition -/

/-- The joint outcome of a second run that went on where the first ended. -/
def Joint.andThen (o : Joint α β) (next : Joint γ δ) : Joint γ δ :=
  ⟨o.left.andThen next.left, o.right.andThen next.right⟩

theorem pair_bind_right (p : Program γ) (q : Program β) (g : β → Program δ) {l r : Endpoint}
    {o : Outcome β} (h : q.run r = some o) (hr : .received none ∉ o.history) :
    pair p (q.bind g) l r = (pair p (g o.result) (l.deliver o.sent) o.endpoint).map
      fun j => ⟨j.left, o.andThen j.right⟩ := by
  induction q generalizing l r o with
  | done b =>
    cases h
    have : l.deliver (Outcome.sent ⟨b, r, []⟩) = l := by simp [Endpoint.deliver, Outcome.sent]
    rw [this]
    exact Option.map_id'.symm
  | draw length accept next ih =>
    rw [bind, pair_draw_right]
    rw [run] at h
    split at h
    · rename_i block source hd
      rw [hd]
      exact ih block h hr
    · cases h
  | send frame next ih =>
    rw [bind]
    rw [run] at h
    split at h
    · rename_i hline
      obtain ⟨o', ho', rfl⟩ := Option.map_eq_some_iff.1 h
      have hr' : .received none ∉ o'.history := fun hm => hr (List.mem_cons_of_mem _ hm)
      rw [pair_send_right _ _ _ _ _ hline, ih true ho' hr', Option.map_map]
      have : (l.deliver [frame]).deliver o'.sent = l.deliver (o'.after (.sent frame)).sent := by
        simp [Endpoint.deliver, Outcome.sent, Outcome.after]
      rw [this]
      rfl
    · rename_i hline
      obtain ⟨o', ho', rfl⟩ := Option.map_eq_some_iff.1 h
      have hr' : .received none ∉ o'.history := fun hm => hr (List.mem_cons_of_mem _ hm)
      rw [pair_refused_right _ _ _ _ _ (by simpa using hline), ih false ho' hr', Option.map_map]
      rfl
  | receive next ih =>
    rw [bind]
    rw [run] at h
    split at h
    · rename_i frame inbox hi
      obtain ⟨o', ho', rfl⟩ := Option.map_eq_some_iff.1 h
      have hr' : .received none ∉ o'.history := fun hm => hr (List.mem_cons_of_mem _ hm)
      rw [pair_receive_right _ _ _ _ hi, ih (some frame) ho' hr', Option.map_map]
      rfl
    · -- an empty queue would have shown the channel closed
      obtain ⟨o', ho', rfl⟩ := Option.map_eq_some_iff.1 h
      exact absurd List.mem_cons_self hr
  | note event next ih =>
    rw [bind, pair_note_right]
    obtain ⟨o', ho', rfl⟩ := Option.map_eq_some_iff.1 h
    have hr' : .received none ∉ o'.history := fun hm => hr (List.mem_cons_of_mem _ hm)
    rw [ih ho' hr', Option.map_map]
    rfl

/-- Where neither party found the channel closed, their continuations go on from where they
ended. -/
def Continues (p : Program α) : Prop :=
  ∀ (β γ δ : Type) (q : Program β) (f : α → Program γ) (g : β → Program δ) (l r : Endpoint)
    (o : Joint α β), pair p q l r = some o →
    .received none ∉ o.left.history → .received none ∉ o.right.history →
    pair (p.bind f) (q.bind g) l r =
      (pair (f o.left.result) (g o.right.result) o.left.endpoint o.right.endpoint).map o.andThen

theorem pair_bind_waiting (next : Option Bytes → Program α) (ih : ∀ frame, Continues (next frame))
    (q : Program β) (f : α → Program γ) (g : β → Program δ) {l r : Endpoint} (hl : l.inbox = [])
    {o : Joint α β} (h : pair (receive next) q l r = some o)
    (hol : .received none ∉ o.left.history) (hor : .received none ∉ o.right.history) :
    pair ((receive next).bind f) (q.bind g) l r =
      (pair (f o.left.result) (g o.right.result) o.left.endpoint o.right.endpoint).map
        o.andThen := by
  induction q generalizing l r o with
  | done b =>
    -- a right party that ends leaves the waiting one with a closed channel
    rw [pair_done_right, run, hl] at h
    obtain ⟨o₁, h₁, rfl⟩ := Option.map_eq_some_iff.1 h
    obtain ⟨o₂, -, rfl⟩ := Option.map_eq_some_iff.1 h₁
    exact absurd List.mem_cons_self hol
  | draw length accept nextq ihq =>
    rw [pair_draw_right] at h
    obtain ⟨⟨block, source⟩, hd, h⟩ := Option.bind_eq_some_iff.1 h
    rw [bind, bind, pair_draw_right, hd]
    exact ihq block hl h hol hor
  | send frame nextq ihq =>
    by_cases hr : r.line 0 = true
    · -- the frame ends the wait
      have hd : (l.deliver [frame]).inbox = [frame] := by simp [Endpoint.deliver, hl]
      rw [pair_send_right _ _ _ _ _ hr, pair] at h
      simp only [hd] at h
      obtain ⟨o₁, h₁, rfl⟩ := Option.map_eq_some_iff.1 h
      obtain ⟨o₂, h₂, rfl⟩ := Option.map_eq_some_iff.1 h₁
      rw [bind, bind, pair_send_right _ _ _ _ _ hr, pair]
      simp only [hd]
      rw [ih (some frame) _ _ _ _ f g _ _ _ h₂ (fun hm => hol (List.mem_cons_of_mem _ hm))
        (fun hm => hor (List.mem_cons_of_mem _ hm)), Option.map_map, Option.map_map]
      rfl
    · have hr' : r.line 0 = false := by simpa using hr
      rw [pair_refused_right _ _ _ _ _ hr'] at h
      obtain ⟨o₁, h₁, rfl⟩ := Option.map_eq_some_iff.1 h
      have hq := ihq false hl h₁ hol (fun hm => hor (List.mem_cons_of_mem _ hm))
      rw [bind] at hq ⊢
      rw [bind, pair_refused_right _ _ _ _ _ hr', hq, Option.map_map]
      rfl
  | receive nextq ihq =>
    rcases hi : r.inbox with _ | ⟨frame, inbox⟩
    · simp only [pair, hl, serve, hi] at h
      obtain ⟨o₁, h₁, rfl⟩ := Option.map_eq_some_iff.1 h
      obtain ⟨o₂, -, rfl⟩ := Option.map_eq_some_iff.1 h₁
      exact absurd List.mem_cons_self hol
    · rw [pair_receive_right _ _ _ _ hi] at h
      obtain ⟨o₁, h₁, rfl⟩ := Option.map_eq_some_iff.1 h
      have hq := ihq (some frame) hl h₁ hol (fun hm => hor (List.mem_cons_of_mem _ hm))
      rw [bind] at hq ⊢
      rw [bind, pair_receive_right _ _ _ _ hi, hq, Option.map_map]
      rfl
  | note event nextq ihq =>
    rw [pair_note_right] at h
    obtain ⟨o₁, h₁, rfl⟩ := Option.map_eq_some_iff.1 h
    have hq := ihq hl h₁ hol (fun hm => hor (List.mem_cons_of_mem _ hm))
    rw [bind] at hq ⊢
    rw [bind, pair_note_right, hq, Option.map_map]
    rfl

theorem pair_bind (p : Program α) : Continues p := by
  induction p with
  | done a =>
    intro β γ δ q f g l r o h hol hor
    obtain ⟨o', hq, rfl⟩ := Option.map_eq_some_iff.1 h
    exact pair_bind_right (f a) q g hq hor
  | draw length accept next ih =>
    intro β γ δ q f g l r o h hol hor
    rw [pair] at h
    rw [bind, pair]
    split at h
    · exact ih _ _ _ _ _ f g _ _ _ h hol hor
    · cases h
  | send frame next ih =>
    intro β γ δ q f g l r o h hol hor
    rw [pair] at h
    rw [bind, pair]
    split at h
    · rename_i hline
      obtain ⟨o', h', rfl⟩ := Option.map_eq_some_iff.1 h
      rw [if_pos hline, ih _ _ _ _ _ f g _ _ _ h' (fun hm => hol (List.mem_cons_of_mem _ hm)) hor,
        Option.map_map]
      rfl
    · rename_i hline
      obtain ⟨o', h', rfl⟩ := Option.map_eq_some_iff.1 h
      rw [if_neg hline, ih _ _ _ _ _ f g _ _ _ h' (fun hm => hol (List.mem_cons_of_mem _ hm)) hor,
        Option.map_map]
      rfl
  | receive next ih =>
    intro β γ δ q f g l r o h hol hor
    rcases hi : l.inbox with _ | ⟨frame, inbox⟩
    · -- the right party decides what comes next
      exact pair_bind_waiting next ih q f g hi h hol hor
    · rw [pair] at h
      rw [bind, pair]
      simp only [hi] at h ⊢
      obtain ⟨o', h', rfl⟩ := Option.map_eq_some_iff.1 h
      rw [ih _ _ _ _ _ f g _ _ _ h' (fun hm => hol (List.mem_cons_of_mem _ hm)) hor,
        Option.map_map]
      rfl
  | note event next ih =>
    intro β γ δ q f g l r o h hol hor
    rw [pair] at h
    rw [bind, pair]
    obtain ⟨o', h', rfl⟩ := Option.map_eq_some_iff.1 h
    rw [ih _ _ _ _ f g _ _ _ h' (fun hm => hol (List.mem_cons_of_mem _ hm)) hor, Option.map_map]
    rfl

/-! ## Phases -/

end Program

/-- The outcome is `(a, s)` with all queues empty, and the passages are all that went through the
channel, seen from this side. -/
structure Outcome.Ends {α : Type} (o : Outcome α) (side : Side) (passages : List Passage)
    (last : α × Source) : Prop where
  result : o.result = last.1
  endpoint : o.endpoint = .fresh last.2
  traffic : o.traffic = passages.map (Passage.activity side)

namespace Program

/-- The program keeps to itself: whatever waits for it, it ends with the result, and its source
where the draws have taken it. -/
def Yields (p : Program α) (s : Source) (last : α × Source) : Prop :=
  ∀ inbox line, ∃ events : List Event,
    p.run ⟨s, inbox, line⟩ = some ⟨last.1, ⟨last.2, inbox, line⟩, events.map .noted⟩

/-- The two programs, run side by side with all queues empty, exchange the passages and end with
all queues empty. -/
def Meets (p : Program α) (q : Program β) (s t : Source) (passages : List Passage)
    (left : α × Source) (right : β × Source) : Prop :=
  ∃ o, pair p q (.fresh s) (.fresh t) = some o ∧
    o.left.Ends .first passages left ∧ o.right.Ends .second passages right

end Program

namespace Outcome.Ends

variable {α β : Type} {o : Outcome α} {o' : Outcome β} {side : Side}
  {passages passages' : List Passage} {last : α × Source} {last' : β × Source}

theorem received_none_not_mem (h : o.Ends side passages last) : .received none ∉ o.history := by
  intro hm
  have ht : .received none ∈ o.traffic := List.mem_filter.2 ⟨hm, rfl⟩
  rw [h.traffic] at ht
  obtain ⟨⟨sender, frame⟩, -, heq⟩ := List.mem_map.1 ht
  unfold Passage.activity at heq
  split at heq <;> cases heq

theorem andThen (h : o.Ends side passages last) (h' : o'.Ends side passages' last') :
    (o.andThen o').Ends side (passages ++ passages') last' := by
  refine ⟨h'.result, h'.endpoint, ?_⟩
  show List.filter _ (o.history ++ o'.history) = _
  rw [List.filter_append, List.map_append]
  exact congrArg₂ (· ++ ·) h.traffic h'.traffic

end Outcome.Ends

namespace Program

variable {p : Program α} {q : Program β} {f : α → Program γ} {g : β → Program δ}
  {s s' t t' : Source} {passages passages' : List Passage} {a : α} {b : β}

/-! ## One party alone -/

theorem Yields.done (a : α) (s : Source) : (Program.done a).Yields s (a, s) :=
  fun _ _ => ⟨[], rfl⟩

theorem Yields.bind (h : p.Yields s (a, s')) {last : γ × Source} (h' : (f a).Yields s' last) :
    (p.bind f).Yields s last := by
  intro inbox line
  obtain ⟨events, hp⟩ := h inbox line
  obtain ⟨events', hf⟩ := h' inbox line
  refine ⟨events ++ events', ?_⟩
  rw [run_bind, hp, Option.bind_some]
  simp only
  rw [hf, List.map_append]
  rfl

theorem Yields.note (event : Event) {last : α × Source} (h : p.Yields s last) :
    (Program.note event p).Yields s last := by
  intro inbox line
  obtain ⟨events, hp⟩ := h inbox line
  exact ⟨event :: events, by rw [run, hp]; rfl⟩

theorem Yields.draw {length : Nat} {accept : Bytes → Bool} {next : Bytes → Program α}
    {block : Bytes} (hd : s.draw length accept = some (block, s')) {last : α × Source}
    (h : (next block).Yields s' last) : (Program.draw length accept next).Yields s last := by
  intro inbox line
  obtain ⟨events, hp⟩ := h inbox line
  refine ⟨events, ?_⟩
  rw [run]
  simp only [hd]
  exact hp

/-! ## Both parties -/

theorem Meets.done (a : α) (b : β) (s t : Source) :
    Meets (.done a) (.done b) s t [] (a, s) (b, t) :=
  ⟨_, rfl, ⟨rfl, rfl, rfl⟩, ⟨rfl, rfl, rfl⟩⟩

/-- Phases follow each other. -/
theorem Meets.bind (h : Meets p q s t passages (a, s') (b, t')) {c : γ × Source} {d : δ × Source}
    (h' : Meets (f a) (g b) s' t' passages' c d) :
    Meets (p.bind f) (q.bind g) s t (passages ++ passages') c d := by
  obtain ⟨o, hrun, hl, hr⟩ := h
  obtain ⟨o', hrun', hl', hr'⟩ := h'
  refine ⟨o.andThen o', ?_, hl.andThen hl', hr.andThen hr'⟩
  rw [pair_bind p _ _ _ q f g _ _ o hrun hl.received_none_not_mem hr.received_none_not_mem,
    hl.result, hr.result, hl.endpoint, hr.endpoint, hrun']
  rfl

theorem Meets.swap {left : α × Source} {right : β × Source}
    (h : Meets p q s t passages left right) :
    Meets q p t s (passages.map Passage.flip) right left := by
  obtain ⟨o, hrun, hl, hr⟩ := h
  have hflip (side : Side) (p : Passage) : p.flip.activity side.other = p.activity side := by
    obtain ⟨sender, frame⟩ := p
    cases sender <;> cases side <;> rfl
  refine ⟨o.swap, by rw [swap_pair, hrun]; rfl, ⟨hr.result, hr.endpoint, ?_⟩,
    ⟨hl.result, hl.endpoint, ?_⟩⟩
  · show o.right.traffic = _
    rw [hr.traffic, List.map_map]
    exact List.map_congr_left fun p _ => (hflip .second p).symm
  · show o.left.traffic = _
    rw [hl.traffic, List.map_map]
    exact List.map_congr_left fun p _ => (hflip .first p).symm

/-- What one party does by itself exchanges nothing. -/
theorem Yields.meets_done (h : p.Yields s (a, s')) (b : β) (t : Source) :
    Meets p (.done b) s t [] (a, s') (b, t) := by
  obtain ⟨events, hp⟩ := h [] fun _ => true
  have htraffic : Outcome.traffic ⟨a, .fresh s', events.map .noted⟩ = [] := by
    simp [Outcome.traffic, Activity.isTraffic, List.filter_map]
  refine ⟨_, by rw [pair_done_right]; exact congrArg (Option.map _) hp, ⟨rfl, rfl, htraffic⟩,
    ⟨rfl, ?_, rfl⟩⟩
  simp [Outcome.sent, Endpoint.deliver, Endpoint.fresh, List.filterMap_map]

/-- Two parties that keep to themselves. -/
theorem Yields.meets {left : α × Source} {right : β × Source} (h : p.Yields s left)
    (h' : q.Yields t right) : Meets p q s t [] left right := by
  -- first one party, with the other one idle, then the other
  have hp := h.meets_done () t
  have hq := (h'.meets_done left.1 left.2).swap
  have := hp.bind (f := .done) (g := fun _ => q) hq
  rwa [bind_done] at this

theorem Yields.left (h : p.Yields s (a, s')) {c : γ × Source} {d : β × Source}
    (h' : Meets (f a) q s' t passages c d) : Meets (p.bind f) q s t passages c d :=
  (h.meets_done () t).bind (g := fun _ => q) h'

theorem Yields.right (h : q.Yields t (b, t')) {c : α × Source} {d : δ × Source}
    (h' : Meets p (g b) s t' passages c d) : Meets p (q.bind g) s t passages c d :=
  (h.meets_done () s).swap.bind (f := fun _ => p) h'

/-- A frame goes over. -/
theorem Meets.send (frame : Bytes) (s t : Source) :
    Meets (Program.send frame .done) (.receive .done) s t [(.first, frame)] (true, s)
      (some frame, t) :=
  ⟨_, rfl, ⟨rfl, rfl, rfl⟩, ⟨rfl, rfl, rfl⟩⟩

end Program

end TwoParty
