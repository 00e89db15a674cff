/-
Two programs side by side: whichever party takes its next step first, the joint outcome is the
same. `pair` lets the left party go on until it waits; here the steps of the right party are shown
to be as free, so a run of both can be followed in any order, and exchanging the sides only
exchanges the outcomes.
-/
import TwoParty.Program.Link
import Mathlib.Tactic

namespace TwoParty.Program

variable {α β : Type}

attribute [local simp] pair run serve

/-! ## Steps of the right party -/

theorem map_afterLeft_afterRight (x : Option (Joint α β)) (a b : Activity) :
    (x.map (·.afterLeft a)).map (·.afterRight b) =
      (x.map (·.afterRight b)).map (·.afterLeft a) := by
  cases x <;> rfl

theorem pair_note_right (p : Program α) (event : Event) (q : Program β) (l r : Endpoint) :
    pair p (note event q) l r = (pair p q l r).map (·.afterRight (.noted event)) := by
  induction p generalizing l r with
  | done a =>
    simp only [pair, run]
    cases q.run r <;> rfl
  | draw length accept next ih =>
    simp only [pair]
    split
    · exact ih _ _ _
    · rfl
  | send frame next ih =>
    simp only [pair]
    split
    · rw [ih]; exact (map_afterLeft_afterRight _ _ _).symm
    · rw [ih]; exact (map_afterLeft_afterRight _ _ _).symm
  | receive next ih =>
    simp only [pair]
    split
    · rw [ih]; exact (map_afterLeft_afterRight _ _ _).symm
    · rfl
  | note event' next ih =>
    simp only [pair]
    rw [ih]; exact (map_afterLeft_afterRight _ _ _).symm

theorem pair_draw_right (p : Program α) (length : Nat) (accept : Bytes → Bool)
    (next : Bytes → Program β) (l r : Endpoint) :
    pair p (draw length accept next) l r =
      (r.source.draw length accept).bind fun (block, source) =>
        pair p (next block) l { r with source } := by
  induction p generalizing l r with
  | done a =>
    simp only [pair, run]
    cases r.source.draw length accept <;> rfl
  | draw length' accept' next' ih =>
    simp only [pair]
    split
    · exact ih _ _ _
    · cases r.source.draw length accept <;> rfl
  | send frame next' ih =>
    simp only [pair]
    split
    · rw [ih]; simp only [Endpoint.deliver]; cases r.source.draw length accept <;> rfl
    · rw [ih]; cases r.source.draw length accept <;> rfl
  | receive next' ih =>
    simp only [pair]
    -- while the left party waits, the right one draws in `serve`
    split
    · rw [ih]; cases r.source.draw length accept <;> rfl
    · simp only [serve]
      cases r.source.draw length accept <;> rfl
  | note event next' ih =>
    simp only [pair]
    rw [ih]; cases r.source.draw length accept <;> rfl

/-- What the right party sends arrives at the left one, whether that waits for it or not. -/
theorem pair_send_right (p : Program α) (frame : Bytes) (next : Bool → Program β) (l r : Endpoint)
    (h : r.line 0 = true) :
    pair p (send frame next) l r =
      (pair p (next true) (l.deliver [frame]) r.attempted).map (·.afterRight (.sent frame)) := by
  induction p generalizing l r with
  | done a =>
    simp only [pair, run, if_pos h]
    cases (next true).run r.attempted with
    | none => rfl
    | some o => simp [Joint.afterRight, Outcome.after, Outcome.sent, Endpoint.deliver]
  | draw length accept next' ih =>
    simp only [pair, Endpoint.deliver]
    split
    · exact ih _ _ _ h
    · rfl
  | send frame' next' ih =>
    by_cases hl : l.line 0 = true
    · have hl' : (l.deliver [frame]).line 0 = true := hl
      simp only [pair, if_pos hl, if_pos hl']
      rw [ih true _ (r.deliver [frame']) h]; exact (map_afterLeft_afterRight _ _ _).symm
    · have hl' : ¬ (l.deliver [frame]).line 0 = true := hl
      simp only [pair, if_neg hl, if_neg hl']
      rw [ih false _ _ h]; exact (map_afterLeft_afterRight _ _ _).symm
  | receive next' ih =>
    -- an empty queue hands the frame over at once, a longer one keeps its order
    rcases hi : l.inbox with _ | ⟨first, inbox⟩
    · simp only [pair, hi, serve, if_pos h, Endpoint.deliver, List.nil_append]
      obtain ⟨source, inbox, line⟩ := l
      simp only at hi
      subst hi
      rfl
    · simp only [pair, hi, Endpoint.deliver, List.cons_append]
      rw [ih _ _ _ h]; exact (map_afterLeft_afterRight _ _ _).symm
  | note event next' ih =>
    simp only [pair]
    rw [ih _ _ h]; exact (map_afterLeft_afterRight _ _ _).symm

theorem pair_refused_right (p : Program α) (frame : Bytes) (next : Bool → Program β)
    (l r : Endpoint) (h : r.line 0 = false) :
    pair p (send frame next) l r =
      (pair p (next false) l r.attempted).map (·.afterRight (.refused frame)) := by
  have hn : ¬ r.line 0 = true := by rw [h]; decide
  induction p generalizing l r with
  | done a =>
    simp only [pair, run, if_neg hn]
    cases (next false).run r.attempted <;> rfl
  | draw length accept next' ih =>
    simp only [pair]
    split
    · exact ih _ _ _ h hn
    · rfl
  | send frame' next' ih =>
    simp only [pair]
    split
    · rw [ih true _ (r.deliver [frame']) h hn]; exact (map_afterLeft_afterRight _ _ _).symm
    · rw [ih false _ _ h hn]; exact (map_afterLeft_afterRight _ _ _).symm
  | receive next' ih =>
    simp only [pair]
    split
    · rw [ih _ _ _ h hn]; exact (map_afterLeft_afterRight _ _ _).symm
    · simp only [serve, if_neg hn]
  | note event next' ih =>
    simp only [pair]
    rw [ih _ _ h hn]; exact (map_afterLeft_afterRight _ _ _).symm

/-- The right party takes a frame that waits for it. -/
theorem pair_receive_right (p : Program α) (next : Option Bytes → Program β) (l r : Endpoint)
    {frame : Bytes} {inbox : List Bytes} (h : r.inbox = frame :: inbox) :
    pair p (receive next) l r =
      (pair p (next (some frame)) l { r with inbox }).map
        (·.afterRight (.received (some frame))) := by
  induction p generalizing l r inbox with
  | done a =>
    simp only [pair, run, h]
    cases (next (some frame)).run { r with inbox } <;> rfl
  | draw length accept next' ih =>
    simp only [pair]
    split
    · exact ih _ _ _ h
    · rfl
  | send frame' next' ih =>
    simp only [pair]
    split
    · rw [ih _ _ _ (show (r.deliver [frame']).inbox = frame :: (inbox ++ [frame']) by
        simp [Endpoint.deliver, h])]
      exact (map_afterLeft_afterRight _ _ _).symm
    · rw [ih _ _ _ h]; exact (map_afterLeft_afterRight _ _ _).symm
  | receive next' ih =>
    simp only [pair]
    split
    · rw [ih _ _ _ h]; exact (map_afterLeft_afterRight _ _ _).symm
    · simp only [serve, h]
  | note event next' ih =>
    simp only [pair]
    rw [ih _ _ h]; exact (map_afterLeft_afterRight _ _ _).symm

/-- A right party that has ended leaves the left one to run alone. -/
theorem pair_done_right (p : Program α) (b : β) (l r : Endpoint) :
    pair p (done b) l r = (p.run l).map fun o => ⟨o, ⟨b, r.deliver o.sent, []⟩⟩ := by
  induction p generalizing l r with
  | done a => simp [Outcome.sent, Endpoint.deliver]
  | draw length accept next ih =>
    simp only [pair, run]
    split
    · exact ih _ _ _
    · rfl
  | send frame next ih =>
    simp only [pair, run]
    split
    · rw [ih]
      cases (next true).run l.attempted with
      | none => rfl
      | some o => simp [Joint.afterLeft, Outcome.after, Outcome.sent, Endpoint.deliver]
    · rw [ih]
      cases (next false).run l.attempted with
      | none => rfl
      | some o => simp [Joint.afterLeft, Outcome.after, Outcome.sent]
  | receive next ih =>
    simp only [pair, run]
    split
    · rw [ih]
      rename_i frame inbox _
      cases (next (some frame)).run { l with inbox } with
      | none => rfl
      | some o => simp [Joint.afterLeft, Outcome.after, Outcome.sent]
    · simp only [serve]
      rw [ih]
      cases (next none).run l with
      | none => rfl
      | some o => simp [Joint.afterLeft, Outcome.after, Outcome.sent]
  | note event next ih =>
    simp only [pair, run]
    rw [ih]
    cases next.run l with
    | none => rfl
    | some o => simp [Joint.afterLeft, Outcome.after, Outcome.sent]

/-! ## Exchanging the sides -/

/-- The joint outcome seen from the other side. -/
def Joint.swap (o : Joint α β) : Joint β α := ⟨o.right, o.left⟩

theorem map_swap_afterLeft (x : Option (Joint α β)) (a : Activity) :
    (x.map (·.afterLeft a)).map Joint.swap = (x.map Joint.swap).map (·.afterRight a) := by
  cases x <;> rfl

theorem map_swap_afterRight (x : Option (Joint α β)) (a : Activity) :
    (x.map (·.afterRight a)).map Joint.swap = (x.map Joint.swap).map (·.afterLeft a) := by
  cases x <;> rfl

/-- The left party waits and nothing is under way to it: then the outcome hangs on the right party
alone, up to where it ends or waits as well. -/
theorem swap_pair_receive (next : Option Bytes → Program α)
    (ih : ∀ frame (q : Program β) l r,
      pair q (next frame) r l = (pair (next frame) q l r).map Joint.swap)
    (q : Program β) (l r : Endpoint) (hl : l.inbox = []) :
    pair q (receive next) r l = (pair (receive next) q l r).map Joint.swap := by
  induction q generalizing l r with
  | done b =>
    rw [pair_done_right]
    simp only [pair, run, hl]
    cases (next none).run l with
    | none => rfl
    | some o => simp [Joint.swap, Outcome.after, Outcome.sent]
  | draw length accept nextq ihq =>
    rw [pair_draw_right, pair]
    rcases r.source.draw length accept with _ | ⟨block, source⟩
    · rfl
    · exact ihq _ _ _ hl
  | send frame nextq ihq =>
    by_cases hr : r.line 0 = true
    · -- the frame ends the wait of the left party
      have hd : (l.deliver [frame]).inbox = [frame] := by simp [Endpoint.deliver, hl]
      rw [pair_send_right _ _ _ _ _ hr, pair, if_pos hr, pair_receive_right _ _ _ _ hd, ih, pair]
      simp only [hd]
      rw [map_swap_afterRight, map_swap_afterLeft]
    · rw [pair_refused_right _ _ _ _ _ (by simpa using hr), pair, if_neg hr, ihq _ _ _ hl,
        map_swap_afterRight]
  | receive nextq ihq =>
    rcases hr : r.inbox with _ | ⟨frame, inbox⟩
    · -- both wait in vain
      simp only [pair, hl, hr, serve]
      rw [ih, map_swap_afterRight, map_swap_afterLeft, map_afterLeft_afterRight]
    · rw [pair_receive_right _ _ _ _ hr, map_swap_afterRight, ← ihq _ _ _ hl, pair]
      simp only [hr]
  | note event nextq ihq =>
    rw [pair_note_right, map_swap_afterRight, ← ihq _ _ hl, pair]

/-- It does not matter which party is named first. -/
theorem swap_pair (p : Program α) (q : Program β) (l r : Endpoint) :
    pair q p r l = (pair p q l r).map Joint.swap := by
  induction p generalizing q l r with
  | done a =>
    rw [pair_done_right, pair]
    cases q.run r <;> rfl
  | draw length accept next ih =>
    rw [pair_draw_right, pair]
    rcases l.source.draw length accept with _ | ⟨block, source⟩
    · rfl
    · exact ih _ _ _ _
  | send frame next ih =>
    by_cases hl : l.line 0 = true
    · rw [pair_send_right _ _ _ _ _ hl, pair, if_pos hl, map_swap_afterLeft, ← ih]
    · rw [pair_refused_right _ _ _ _ _ (by simpa using hl), pair, if_neg hl, map_swap_afterLeft,
        ← ih]
  | receive next ih =>
    rcases hl : l.inbox with _ | ⟨frame, inbox⟩
    · -- the left party waits, so the next step is the right party's
      exact swap_pair_receive next (fun frame q l r => ih frame q l r) q l r hl
    · rw [pair_receive_right _ _ _ _ hl, pair]
      simp only [hl]
      rw [map_swap_afterLeft, ← ih]
  | note event next ih =>
    rw [pair_note_right, pair, map_swap_afterLeft, ← ih]

end TwoParty.Program
