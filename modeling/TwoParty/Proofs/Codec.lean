/-
What the two ends of a channel may rely on for every type of message, whatever a frame holds. By
the law of the binary form a frame is received as the message it begins with; so no written form
begins another, and a frame that ends inside a written form is received as none.
-/
import TwoParty.Proofs.Documents
import TwoParty.Proofs.Frames
import TwoParty.Proofs.Messages

namespace TwoParty

namespace Wire

/-! ## Codecs -/

/-- The messages of a type that satisfy `fits`, on a channel and as documents. -/
structure Codec (α : Type) [Wire α] (fits : α → Prop) : Prop where
  sends (message : α) (e : Endpoint) (hline : e.line 0 = true) :
    (Attempt.send message).run.run e = some ⟨.ok (), e.attempted, [.sent (write message)]⟩
  /-- A frame is received as the message whose written form it begins with, whatever follows, and is
  malformed if there is none. -/
  receives (e : Endpoint) (frame : Bytes) (hframe : e.inbox.head? = some frame) :
    ∃ o, (Attempt.receive α).run.run e = some o ∧
      (∀ message, o.result = .ok message ↔ fits message ∧ write message <+: frame) ∧
      ((∃ reason, o.result = .error (.channel (.malformed reason))) ↔
        ∀ message, fits message → ¬ write message <+: frame)
  injective (m m' : α) : fits m → fits m' → write m = write m' → m = m'
  prefixFree (m m' : α) : fits m → fits m' → write m <+: write m' → m = m'
  cutShort (message : α) (frame : Bytes) (hfits : fits message) (hbegins : frame <+: write message)
    (hne : frame ≠ write message) (e : Endpoint) (hframe : e.inbox.head? = some frame) :
    ∃ o reason, (Attempt.receive α).run.run e = some o ∧
      o.result = .error (.channel (.malformed reason))
  /-- The document of a message is read back as the message, so it leads to the same frame. -/
  document (message : α) : ofDocument? (toDocument message) = some message

section

variable {α : Type} [Wire α]

section Lawful

variable [Lawful α]

theorem eq_of_write_prefix {m m' : α} {frame : Bytes} (hm : Fits m) (hm' : Fits m')
    (h : write m <+: frame) (h' : write m' <+: frame) : m = m' := by
  have hread := (decode_eq_ok_iff frame m).2 ⟨hm, h⟩
  rw [(decode_eq_ok_iff frame m').2 ⟨hm', h'⟩] at hread
  cases hread
  rfl

theorem decode_eq_error_iff (frame : Bytes) :
    (∃ reason, decode α frame = .error (.malformed reason)) ↔
      ∀ message : α, Fits message → ¬ write message <+: frame := by
  constructor
  · rintro ⟨reason, herror⟩ message hfits hbegins
    rw [(decode_eq_ok_iff frame message).2 ⟨hfits, hbegins⟩] at herror
    cases herror
  · intro hnone
    rcases hread : decode α frame with cause | message
    · -- there is one error of reading
      unfold decode at hread
      split at hread
      · cases hread
      · cases hread
        exact ⟨_, rfl⟩
    · obtain ⟨hfits, hbegins⟩ := (decode_eq_ok_iff frame message).1 hread
      exact absurd hbegins (hnone message hfits)

/-- Nothing is read off a frame that ends inside a written form. -/
theorem not_prefix_of_cut {message : α} {frame : Bytes} (hfits : Fits message)
    (hbegins : frame <+: write message) (hne : frame ≠ write message) (m : α) (hm : Fits m) :
    ¬ write m <+: frame := by
  intro h
  -- it would be the same message, and the frame would hold all of it
  obtain rfl := eq_of_write_prefix hm hfits (h.trans hbegins) List.prefix_rfl
  exact hne (hbegins.eq_of_length (le_antisymm hbegins.length_le h.length_le))

theorem run_receive_frame (e : Endpoint) {frame : Bytes} (hframe : e.inbox.head? = some frame) :
    ∃ o, (Attempt.receive α).run.run e = some o ∧
      (∀ message, o.result = .ok message ↔ Fits message ∧ write message <+: frame) ∧
      ((∃ reason, o.result = .error (.channel (.malformed reason))) ↔
        ∀ message : α, Fits message → ¬ write message <+: frame) := by
  refine ⟨_, Attempt.run_receive e, fun message => ?_, ?_⟩
  · show Attempt.ofFrame? α e.inbox.head? = _ ↔ _
    rw [hframe, ← decode_eq_ok_iff]
    exact mapError_eq_ok_iff
  · show (∃ reason, Attempt.ofFrame? α e.inbox.head? = _) ↔ _
    rw [hframe, ← decode_eq_error_iff]
    unfold Attempt.ofFrame?
    simp [mapError_eq_error_iff]

end Lawful

variable [Lawful α] [Legible α]

theorem Codec.of_lawful {fits : α → Prop} (h : ∀ message, fits message ↔ Fits message) :
    Codec α fits where
  sends message e hline := by rw [Attempt.run_send, if_pos hline]
  receives e frame hframe := by
    simp only [h]
    exact run_receive_frame e hframe
  injective m m' hm hm' heq :=
    eq_of_write_prefix ((h m).1 hm) ((h m').1 hm') (heq ▸ List.prefix_rfl) List.prefix_rfl
  prefixFree m m' hm hm' hbegins :=
    eq_of_write_prefix ((h m).1 hm) ((h m').1 hm') hbegins List.prefix_rfl
  cutShort message frame hfits hbegins hne e hframe := by
    obtain ⟨o, hrun, -, hmalformed⟩ := run_receive_frame (α := α) e hframe
    obtain ⟨reason, ho⟩ := hmalformed.2 (not_prefix_of_cut ((h message).1 hfits) hbegins hne)
    exact ⟨o, reason, hrun, ho⟩
  document := ofDocument?_toDocument

end

/-! ## Messages -/

/-- The length is one that eight bytes count, which everything held in memory has. -/
abbrev Counted {α : Type} (items : List α) : Prop :=
  items.length < 2 ^ 64

/-- Every message of the protocols is received exactly as it was sent, and from no frame that does
not begin with it. -/
theorem codec_messages :
    Codec Pedersen.KeyMessage (fun m => Counted m.h) ∧
    Codec Pedersen.CommitmentMessage (fun m => Counted m.c) ∧
    Codec Pedersen.OpeningMessage (fun m => Counted m.x ∧ Counted m.r) ∧
    Codec Pedersen.ValueMessage (fun m => Counted m.x) ∧
    Codec Hashed.CommitmentMessage (fun m => Counted m.c) ∧
    Codec Hashed.OpeningMessage (fun m => Counted m.r ∧ Counted m.x) ∧
    Codec AnnouncementMessage
      (fun m => Counted m.elements ∧ ∀ element ∈ m.elements, Counted element) ∧
    Codec ResponseMessage (fun m => Counted m.z) ∧
    Codec KnowledgeMessage (fun m => Counted m.z.z ∧ Counted m.trapdoor) ∧
    Codec Challenge (fun e => Counted e.bytes) ∧
    Codec Transfer.SetupMessage (fun m => Counted m.g1 ∧ Counted m.h0 ∧ Counted m.h1) ∧
    Codec Transfer.RequestMessage (fun m => Counted m.g ∧ Counted m.h) ∧
    Codec Transfer.AnswerMessage
      (fun m => Counted m.u0 ∧ Counted m.c0 ∧ Counted m.u1 ∧ Counted m.c1) := by
  have hid {P : Prop} : P ↔ True ∧ P := ⟨fun h => ⟨trivial, h⟩, And.right⟩
  exact ⟨.of_lawful fun _ => Iff.rfl, .of_lawful fun _ => hid, .of_lawful fun _ => hid,
    .of_lawful fun _ => hid, .of_lawful fun _ => hid, .of_lawful fun _ => hid,
    .of_lawful fun _ => Iff.rfl, .of_lawful fun _ => Iff.rfl, .of_lawful fun _ => Iff.rfl,
    .of_lawful fun _ => Iff.rfl, .of_lawful fun _ => Iff.rfl, .of_lawful fun _ => Iff.rfl,
    .of_lawful fun _ => Iff.rfl⟩

end Wire

end TwoParty
