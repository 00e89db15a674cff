/-
What arrives over a channel inside one process, in every run of its two ends. What an end has
received and what is still under way to it are together what the opposite end has sent, so frames
arrive in order, once each, and none is lost when the sender is dropped.
-/
import TwoParty.Duplex
import Mathlib.Data.List.Induction

namespace TwoParty

theorem Side.other_ne (s : Side) : s.other ≠ s := by
  cases s <;> decide

theorem Side.other_other (s : Side) : s.other.other = s := by
  cases s <;> rfl

namespace Duplex

/-! ## Runs -/

/-- An operation at one end with its result. A typed operation counts as the one on frames that it
makes. -/
inductive Happening where
  | send (frame : Bytes) (result : Except ChannelError Unit)
  | receive (result : Except ChannelError Bytes)
  | drop

/-- What happened at the two ends, oldest first. -/
abbrev History := List (Side × Happening)

namespace History

/-- The frames that an end has sent successfully. -/
def sent (history : History) (s : Side) : List Bytes :=
  history.filterMap fun
    | (t, .send frame (.ok ())) => if t = s then some frame else none
    | _ => none

/-- The frames that an end has received. -/
def received (history : History) (s : Side) : List Bytes :=
  history.filterMap fun
    | (t, .receive (.ok frame)) => if t = s then some frame else none
    | _ => none

def Dropped (history : History) (s : Side) : Prop :=
  (s, .drop) ∈ history

end History

/-- One operation at an end. A receive that has no result yet is none. -/
inductive Step (d : Duplex) (s : Side) : Happening → Duplex → Prop
  | send (frame : Bytes) : Step d s (.send frame (d.send s frame).1) (d.send s frame).2
  | sendMessage {α : Type} [Wire α] (message : α) :
    Step d s (.send (Wire.write message) (d.sendMessage s message).1) (d.sendMessage s message).2
  | receive {result : Except ChannelError Bytes} (h : (d.receive s).1 = some result) :
    Step d s (.receive result) (d.receive s).2
  | receiveMessage (α : Type) [Wire α] {result : Except ChannelError Bytes}
    (h : (d.receive s).1 = some result) :
    Step d s (.receive result) (d.receiveMessage α s).2
  | drop : Step d s .drop (d.drop s)

/-- A run from two fresh ends: operations in any order, none at an end that was dropped. -/
inductive Run : History → Duplex → Prop
  | start : Run [] {}
  | step {history : History} {d d' : Duplex} {s : Side} {happening : Happening}
    (run : Run history d) (alive : ¬ history.Dropped s) (step : Step d s happening d') :
    Run (history ++ [(s, happening)]) d'

/-! ## Wiring -/

@[simp] theorem side_set (s : Side) (e : DuplexEnd) : (set s e).side s = e := by
  cases s <;> rfl

/-- What one end receives from is what the other sends into. -/
theorem outgoing_other (d : Duplex) (s : Side) :
    (d.side s.other).outgoing = (d.side s).incoming := by
  cases s <;> rfl

@[simp] theorem set_side (d : Duplex) (s : Side) : set s (d.side s) = d := by
  cases s <;> rfl

end Duplex

/-! ## What a step does to the queues -/

namespace Queue

open Duplex

/-- What becomes of a queue when something happens at the end that sends into it. -/
def atSender (q : Queue) : Happening → Queue
  | .send frame (.ok ()) => { q with frames := q.frames ++ [frame] }
  | .drop => { q with senderDropped := true }
  | _ => q

/-- What becomes of a queue when something happens at the end that receives from it. -/
def atReceiver (q : Queue) : Happening → Queue
  | .receive (.ok _) => { q with frames := q.frames.tail }
  | .drop => { q with receiverDropped := true }
  | _ => q

/-- Whether an operation at the sending end can have this result. -/
def AdmitsAtSender (q : Queue) : Happening → Prop
  | .send _ result => result = if q.receiverDropped then .error .closed else .ok ()
  | _ => True

/-- Whether an operation at the receiving end can have this result. -/
def AdmitsAtReceiver (q : Queue) : Happening → Prop
  | .receive (.ok frame) => q.frames.head? = some frame
  | .receive (.error cause) => cause = .closed ∧ q.frames = [] ∧ q.senderDropped = true
  | _ => True

theorem send_eq (q : Queue) (frame : Bytes) :
    q.send frame = (if q.receiverDropped then .error .closed else .ok (),
      q.atSender (.send frame (q.send frame).1)) := by
  unfold send
  split <;> rfl

/-- A send succeeds exactly if the receiving half is not dropped. -/
theorem AdmitsAtSender.ok_iff {q : Queue} {frame : Bytes} {result : Except ChannelError Unit}
    (h : q.AdmitsAtSender (.send frame result)) : result = .ok () ↔ ¬ q.receiverDropped = true := by
  unfold AdmitsAtSender at h
  rw [h]
  split
  · rename_i hdropped; simp [hdropped]
  · rename_i hdropped; simp [hdropped]

theorem receive_spec {q : Queue} {result : Except ChannelError Bytes}
    (h : q.receive.1 = some result) :
    q.AdmitsAtReceiver (.receive result) ∧ q.receive.2 = q.atReceiver (.receive result) := by
  rcases q with ⟨_ | ⟨frame, frames⟩, senderDropped, receiverDropped⟩
  · cases senderDropped
    · cases h
    · cases h
      exact ⟨⟨rfl, rfl, rfl⟩, rfl⟩
  · cases h
    exact ⟨rfl, rfl⟩

end Queue

namespace Duplex

theorem send_fst (d : Duplex) (s : Side) (frame : Bytes) :
    (d.send s frame).1 = ((d.side s).outgoing.send frame).1 := rfl

theorem receive_fst (d : Duplex) (s : Side) :
    (d.receive s).1 = (d.side s).incoming.receive.1 := rfl

theorem side_send (d : Duplex) (s : Side) (frame : Bytes) :
    (d.send s frame).2.side s =
      ⟨((d.side s).outgoing.send frame).2, (d.side s).incoming⟩ := side_set s _

theorem side_receive (d : Duplex) (s : Side) :
    (d.receive s).2.side s = ⟨(d.side s).outgoing, (d.side s).incoming.receive.2⟩ := side_set s _

theorem side_drop (d : Duplex) (s : Side) :
    (d.drop s).side s =
      ⟨(d.side s).outgoing.atSender .drop, (d.side s).incoming.atReceiver .drop⟩ := side_set s _

variable {d d' : Duplex} {s : Side} {happening : Happening} {history : History}

/-- A typed receive has the result and the effect of an untyped one, up to the decoding. -/
theorem receiveMessage_eq (α : Type) [Wire α] (d : Duplex) (s : Side) :
    d.receiveMessage α s =
      ((d.receive s).1.map fun result => result.bind (Wire.decode α), (d.receive s).2) := rfl

/-- Each operation acts on both queues of its end, and its result is one that they admit. -/
theorem Step.spec (h : Step d s happening d') :
    (d.side s).outgoing.AdmitsAtSender happening ∧
      (d.side s).incoming.AdmitsAtReceiver happening ∧
      d'.side s =
        ⟨(d.side s).outgoing.atSender happening, (d.side s).incoming.atReceiver happening⟩ := by
  have hsend (frame : Bytes) :
      (d.side s).outgoing.AdmitsAtSender (.send frame (d.send s frame).1) ∧
        (d.send s frame).2.side s =
          ⟨(d.side s).outgoing.atSender (.send frame (d.send s frame).1), (d.side s).incoming⟩ := by
    rw [side_send, send_fst]
    have heq := (d.side s).outgoing.send_eq frame
    exact ⟨congrArg Prod.fst heq, congrArg (DuplexEnd.mk · _) (congrArg Prod.snd heq)⟩
  have hreceive {result : Except ChannelError Bytes} (h : (d.receive s).1 = some result) :
      (d.side s).incoming.AdmitsAtReceiver (.receive result) ∧
        (d.receive s).2.side s =
          ⟨(d.side s).outgoing, (d.side s).incoming.atReceiver (.receive result)⟩ := by
    obtain ⟨hadmits, heq⟩ := Queue.receive_spec h
    exact ⟨hadmits, by rw [side_receive, heq]⟩
  cases h with
  | send frame => exact ⟨(hsend frame).1, trivial, (hsend frame).2⟩
  | sendMessage message => exact ⟨(hsend _).1, trivial, (hsend _).2⟩
  | receive h => exact ⟨trivial, hreceive h⟩
  | receiveMessage α h => exact ⟨trivial, hreceive h⟩
  | drop => exact ⟨trivial, trivial, side_drop d s⟩

/-! ## Queues over a run -/

namespace History

theorem sent_snoc (history : History) (s t : Side) (happening : Happening) :
    (history ++ [(t, happening)]).sent s = history.sent s ++ History.sent [(t, happening)] s :=
  List.filterMap_append

theorem received_snoc (history : History) (s t : Side) (happening : Happening) :
    (history ++ [(t, happening)]).received s =
      history.received s ++ History.received [(t, happening)] s :=
  List.filterMap_append

theorem dropped_snoc {s t : Side} :
    History.Dropped (history ++ [(t, happening)]) s ↔
      history.Dropped s ∨ (s = t ∧ happening = .drop) := by
  simp [Dropped, eq_comm]

theorem sent_of_ne {s t : Side} (h : t ≠ s) (happening : Happening) :
    History.sent [(t, happening)] s = [] := by
  rcases happening with ⟨frame, cause | ⟨⟩⟩ | result | _ <;> simp [sent, h]

theorem received_of_ne {s t : Side} (h : t ≠ s) (happening : Happening) :
    History.received [(t, happening)] s = [] := by
  rcases happening with ⟨frame, result⟩ | ⟨cause | frame⟩ | _ <;> simp [received, h]

end History

/-- What the queue from an end holds, as the history tells: what was sent into it and not received,
and which of its halves were dropped. -/
structure Tracks (history : History) (s : Side) (q : Queue) : Prop where
  frames : history.sent s = history.received s.other ++ q.frames
  sender : q.senderDropped = true ↔ history.Dropped s
  receiver : q.receiverDropped = true ↔ history.Dropped s.other

theorem Tracks.atSender {q : Queue} (h : Tracks history s q) (happening : Happening) :
    Tracks (history ++ [(s, happening)]) s (q.atSender happening) where
  frames := by
    have hframes : (q.atSender happening).frames =
        q.frames ++ History.sent [(s, happening)] s := by
      rcases happening with ⟨frame, cause | ⟨⟩⟩ | result | _ <;>
        simp [Queue.atSender, History.sent]
    rw [History.sent_snoc, History.received_snoc, h.frames, hframes,
      History.received_of_ne s.other_ne.symm, List.append_nil, List.append_assoc]
  sender := by
    have hsender : (q.atSender happening).senderDropped = true ↔
        q.senderDropped = true ∨ happening = .drop := by
      rcases happening with ⟨frame, cause | ⟨⟩⟩ | result | _ <;> simp [Queue.atSender]
    rw [hsender, h.sender, History.dropped_snoc]
    simp
  receiver := by
    have hreceiver : (q.atSender happening).receiverDropped = q.receiverDropped := by
      rcases happening with ⟨frame, cause | ⟨⟩⟩ | result | _ <;> rfl
    rw [hreceiver, h.receiver, History.dropped_snoc]
    simp [s.other_ne]

theorem Tracks.atReceiver {q : Queue} (h : Tracks history s.other q)
    (hadmits : q.AdmitsAtReceiver happening) :
    Tracks (history ++ [(s, happening)]) s.other (q.atReceiver happening) where
  frames := by
    have hframes : q.frames =
        History.received [(s, happening)] s ++ (q.atReceiver happening).frames := by
      rcases happening with ⟨frame, result⟩ | ⟨cause | frame⟩ | _
      · rfl
      · rfl
      · obtain ⟨frames, hq⟩ := List.head?_eq_some_iff.1 hadmits
        simp [Queue.atReceiver, History.received, hq]
      · rfl
    rw [History.sent_snoc, History.received_snoc, h.frames, Side.other_other,
      History.sent_of_ne s.other_ne.symm, List.append_nil, List.append_assoc, ← hframes]
  sender := by
    have hsender : (q.atReceiver happening).senderDropped = q.senderDropped := by
      rcases happening with ⟨frame, result⟩ | ⟨cause | frame⟩ | _ <;> rfl
    rw [hsender, h.sender, History.dropped_snoc]
    simp [s.other_ne]
  receiver := by
    have hreceiver : (q.atReceiver happening).receiverDropped = true ↔
        q.receiverDropped = true ∨ happening = .drop := by
      rcases happening with ⟨frame, result⟩ | ⟨cause | frame⟩ | _ <;> simp [Queue.atReceiver]
    rw [hreceiver, h.receiver, History.dropped_snoc]
    simp [Side.other_other]

/-- One operation keeps the history and both queues together. -/
theorem Step.tracks (h : Step d s happening d')
    (htracks : ∀ t, Tracks history t (d.side t).outgoing) (t : Side) :
    Tracks (history ++ [(s, happening)]) t (d'.side t).outgoing := by
  obtain ⟨-, hadmits, hside⟩ := h.spec
  rcases eq_or_ne t s with rfl | hne
  · rw [hside]
    exact (htracks t).atSender happening
  · obtain rfl : t = s.other := by cases s <;> cases t <;> first | rfl | exact absurd rfl hne
    rw [outgoing_other, hside]
    refine Tracks.atReceiver ?_ hadmits
    rw [← outgoing_other]
    exact htracks s.other

theorem Run.tracks (h : Run history d) (t : Side) : Tracks history t (d.side t).outgoing := by
  induction h generalizing t with
  | start =>
    cases t <;>
      exact ⟨rfl, by simp [History.Dropped, side], by simp [History.Dropped, side]⟩
  | step run alive step ih => exact step.tracks ih t

/-- The queue that an end receives from, which is the one from the opposite end. -/
theorem Run.tracks_incoming (h : Run history d) (s : Side) :
    Tracks history s.other (d.side s).incoming := by
  rw [← outgoing_other]
  exact h.tracks s.other

/-- Every operation of a run was made in a state that the run before it had reached. -/
theorem Run.before {earlier later : History}
    (h : Run (earlier ++ (s, happening) :: later) d) :
    ∃ d₁ d₂, Run earlier d₁ ∧ Step d₁ s happening d₂ := by
  induction later using List.reverseRecOn generalizing d with
  | nil =>
    generalize hhistory : earlier ++ [(s, happening)] = whole at h
    cases h with
    | start => simp at hhistory
    | step run alive step =>
      obtain ⟨rfl, hlast⟩ := List.append_inj' hhistory rfl
      cases hlast
      exact ⟨_, _, run, step⟩
  | append_singleton later last ih =>
    generalize hhistory : earlier ++ (s, happening) :: (later ++ [last]) = whole at h
    rw [← List.cons_append, ← List.append_assoc] at hhistory
    cases h with
    | start => simp at hhistory
    | step run alive step =>
      obtain ⟨rfl, -⟩ := List.append_inj' hhistory rfl
      exact ih run

/-! ## Delivery -/

/-- The next frame comes off, whether or not it holds the message that is asked for. -/
theorem Run.receive_next (h : Run history d) {frame : Bytes} {rest : List Bytes}
    (hnext : history.sent s.other = history.received s ++ frame :: rest) :
    (d.receive s).1 = some (.ok frame) := by
  have hframes := (h.tracks_incoming s).frames
  rw [Side.other_other, hnext, List.append_cancel_left_eq] at hframes
  rw [receive_fst]
  unfold Queue.receive
  rw [← hframes]

theorem Run.receive_all (h : Run history d) (hall : history.sent s.other = history.received s) :
    d.receive s =
      (if (d.side s).incoming.senderDropped then some (.error .closed) else none, d) := by
  have hframes := (h.tracks_incoming s).frames
  rw [Side.other_other, hall, List.self_eq_append_right] at hframes
  have heq : (d.side s).incoming.receive = (if (d.side s).incoming.senderDropped then
      some (.error .closed) else none, (d.side s).incoming) := by
    unfold Queue.receive
    rw [hframes]
  unfold receive
  simp only [heq]
  rw [set_side]

theorem Run.receive_closed (h : Run history d)
    (hall : history.sent s.other = history.received s) (hdropped : history.Dropped s.other) :
    d.receive s = (some (.error .closed), d) := by
  rw [h.receive_all hall, if_pos ((h.tracks_incoming s).sender.2 hdropped)]

/-- All that is under way to an end can be received there, in order. -/
theorem Run.drain (h : Run history d) {rest : List Bytes} (alive : ¬ history.Dropped s)
    (hrest : history.sent s.other = history.received s ++ rest) :
    ∃ d', Run (history ++ rest.map fun frame => (s, .receive (.ok frame))) d' ∧
      (history.Dropped s.other → d'.receive s = (some (.error .closed), d')) := by
  induction rest generalizing history d with
  | nil =>
    rw [List.append_nil] at hrest
    refine ⟨d, ?_, h.receive_closed hrest⟩
    rwa [List.map_nil, List.append_nil]
  | cons frame rest ih =>
    have hrun := h.step alive (.receive (h.receive_next hrest))
    have hsent : History.sent [(s, .receive (.ok frame))] s.other = [] :=
      History.sent_of_ne s.other_ne.symm _
    have hreceived : History.received [(s, .receive (.ok frame))] s = [frame] := by
      simp [History.received]
    have hdropped (t : Side) :
        History.Dropped (history ++ [(s, .receive (.ok frame))]) t ↔ history.Dropped t := by
      simp [History.dropped_snoc]
    have hnext : History.sent (history ++ [(s, .receive (.ok frame))]) s.other =
        History.received (history ++ [(s, .receive (.ok frame))]) s ++ rest := by
      rw [History.sent_snoc, hsent, History.received_snoc, hreceived, hrest]
      simp
    obtain ⟨d', hd', hclosed⟩ := ih hrun (mt (hdropped s).1 alive) hnext
    refine ⟨d', ?_, fun hd => hclosed ((hdropped s.other).2 hd)⟩
    rwa [List.append_assoc] at hd'

/-- What a channel does after what happened so far, and what it did before. -/
structure Delivers (history : History) (d : Duplex) : Prop where
  /-- What an end has received begins what the opposite end has sent. -/
  begins (s : Side) : history.received s <+: history.sent s.other
  /-- A send succeeds exactly if the opposite end is not dropped, and a refused one has no
  effect. -/
  sends (s : Side) (frame : Bytes) : (d.send s frame).1 = .ok () ↔ ¬ history.Dropped s.other
  refuses (s : Side) (frame : Bytes) :
    history.Dropped s.other → d.send s frame = (.error .closed, d)
  /-- The first frame that was sent and not received comes next. It is used up, whether or not it
  holds the message that is asked for. -/
  receives {s : Side} {frame : Bytes} {rest : List Bytes}
    (h : history.sent s.other = history.received s ++ frame :: rest) :
    ∃ d', d.receive s = (some (.ok frame), d') ∧
      ∀ (α : Type) [Wire α], d.receiveMessage α s = (some (Wire.decode α frame), d')
  /-- With all frames received the channel is closed if the opposite end was dropped; otherwise a
  receive waits. -/
  closes {s : Side} (h : history.sent s.other = history.received s)
    (hdropped : history.Dropped s.other) :
    d.receive s = (some (.error .closed), d) ∧
      ∀ (α : Type) [Wire α], d.receiveMessage α s = (some (.error .closed), d)
  waits {s : Side} (h : history.sent s.other = history.received s)
    (hdropped : ¬ history.Dropped s.other) :
    d.receive s = (none, d) ∧ ∀ (α : Type) [Wire α], d.receiveMessage α s = (none, d)
  /-- All that is under way can still be received, also when the sender is dropped, and then the
  channel is closed. -/
  drains {s : Side} {rest : List Bytes} (alive : ¬ history.Dropped s)
    (h : history.sent s.other = history.received s ++ rest) :
    ∃ d', Run (history ++ rest.map fun frame => (s, .receive (.ok frame))) d' ∧
      (history.Dropped s.other → d'.receive s = (some (.error .closed), d'))
  /-- So it was for every send and for every receive that found the channel closed. -/
  sent_iff {earlier later : History} {s : Side} {frame : Bytes} {result : Except ChannelError Unit}
    (h : history = earlier ++ (s, .send frame result) :: later) :
    result = .ok () ↔ ¬ earlier.Dropped s.other
  closed {earlier later : History} {s : Side} {cause : ChannelError}
    (h : history = earlier ++ (s, .receive (.error cause)) :: later) :
    cause = .closed ∧ earlier.Dropped s.other ∧ earlier.sent s.other = earlier.received s

/-- In every run frames are delivered in order, without loss and without duplicates. -/
theorem Run.delivers (h : Run history d) : Delivers history d where
  begins s := by
    rw [(h.tracks_incoming s).frames, Side.other_other]
    exact List.prefix_append _ _
  sends s frame := by
    have hadmits := (Step.send (d := d) (s := s) frame).spec.1
    rw [hadmits.ok_iff, (h.tracks s).receiver]
  refuses s frame hdropped := by
    have heq : (d.side s).outgoing.send frame = (.error .closed, (d.side s).outgoing) :=
      if_pos ((h.tracks s).receiver.2 hdropped)
    unfold send
    simp only [heq]
    rw [set_side]
  receives hnext := by
    refine ⟨_, Prod.ext (h.receive_next hnext) rfl, fun α _ => ?_⟩
    rw [receiveMessage_eq, h.receive_next hnext]
    rfl
  closes hall hdropped := by
    refine ⟨h.receive_closed hall hdropped, fun α _ => ?_⟩
    rw [receiveMessage_eq, h.receive_closed hall hdropped]
    rfl
  waits {s} hall hdropped := by
    have heq : d.receive s = (none, d) := by
      rw [h.receive_all hall, if_neg (mt (h.tracks_incoming s).sender.1 hdropped)]
    refine ⟨heq, fun α _ => ?_⟩
    rw [receiveMessage_eq, heq]
    rfl
  drains := h.drain
  sent_iff := by
    rintro earlier later s frame result rfl
    obtain ⟨d₁, _, hrun, hstep⟩ := h.before
    rw [hstep.spec.1.ok_iff, (hrun.tracks s).receiver]
  closed := by
    rintro earlier later s cause rfl
    obtain ⟨d₁, _, hrun, hstep⟩ := h.before
    obtain ⟨hcause, hempty, hdropped⟩ := hstep.spec.2.1
    have htracks := hrun.tracks_incoming s
    refine ⟨hcause, htracks.sender.1 hdropped, ?_⟩
    rw [htracks.frames, hempty, List.append_nil, Side.other_other]

/-- A frame that is no integer is used up, and the one behind it arrives after the sender is
dropped. -/
theorem delivers_after_drop :
    ∃ d, Run [(.first, .send [1] (.ok ())), (.first, .send [2] (.ok ())),
        (.second, .receive (.ok [1])), (.first, .drop)] d ∧
      (∃ d', d.receive .second = (some (.ok [2]), d')) ∧
      (∃ d', Run [(.first, .send [1] (.ok ())), (.first, .send [2] (.ok ())),
        (.second, .receive (.ok [1])), (.first, .drop), (.second, .receive (.ok [2]))] d' ∧
        d'.receive .second = (some (.error .closed), d')) ∧
      d.send .second [3] = (.error .closed, d) := by
  have h₁ : Run [(.first, .send [1] (.ok ()))] _ :=
    .step .start (by simp [History.Dropped]) (.send [1])
  have h₂ : Run [(.first, .send [1] (.ok ())), (.first, .send [2] (.ok ()))] _ :=
    .step h₁ (by simp [History.Dropped]) (.send [2])
  have h₃ : Run [(.first, .send [1] (.ok ())), (.first, .send [2] (.ok ())),
      (.second, .receive (.ok [1]))] _ :=
    .step h₂ (by simp [History.Dropped]) (.receiveMessage UInt64 rfl)
  have h₄ : Run [(.first, .send [1] (.ok ())), (.first, .send [2] (.ok ())),
      (.second, .receive (.ok [1])), (.first, .drop)] _ :=
    .step h₃ (by simp [History.Dropped]) .drop
  have hdelivers := h₄.delivers
  have hdropped : History.Dropped [(.first, .send [1] (.ok ())), (.first, .send [2] (.ok ())),
      (.second, .receive (.ok [1])), (.first, .drop)] Side.second.other := by
    simp [History.Dropped, Side.other]
  obtain ⟨d', hd', hclosed⟩ :=
    @Delivers.drains _ _ hdelivers .second [[2]] (by simp [History.Dropped]) rfl
  obtain ⟨e, hreceive, -⟩ := @Delivers.receives _ _ hdelivers .second [2] [] rfl
  exact ⟨_, h₄, ⟨e, hreceive⟩, ⟨d', hd', hclosed hdropped⟩, hdelivers.refuses .second [3] hdropped⟩

end Duplex

end TwoParty
