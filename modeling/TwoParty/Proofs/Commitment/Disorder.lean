/-
Commitments in disorder. A committer and a receiver call their operations in any order, with any
sessions, matched or not, each going on while the other is in the middle of an operation; the
receiver reads whatever frame is next, of whatever type it was. Still it accepts only openings to
values that the committer committed to under the same session. For of all the frames that an honest
committer sends, only openings read as openings: a frame ends exactly where its message ends, and
the other messages are too short. That is the invariant of the frames under way.
-/
import TwoParty.Proofs.Commitment.Receptions
import TwoParty.Proofs.Commitment.Records
import TwoParty.Proofs.Program.Network

namespace TwoParty

/-! ## Roles -/

section Roles

variable {ρ σ Value Commitment Manner : Type}

/-- What is committed to satisfies the condition. -/
def Operation.Fits (Fits : Value → Prop) : Operation Value Manner → Prop
  | .commit value _ => Fits value
  | _ => True

/-- The operations of a committer, in any order; values fit into frames. -/
def Scheme.committerRole (𝒮 : Scheme ρ σ Value Commitment Manner) (Fits : Value → Prop) :
    Role (Operation Value Manner) Unit ρ where
  perform := 𝒮.perform
  May := Operation.Fits Fits

/-- The operations of a receiver, in any order. -/
def Scheme.receiverRole (𝒮 : Scheme ρ σ Value Commitment Manner) :
    Role (Reception Manner) (Reply Value) σ where
  perform := 𝒮.receive
  May _ := True

/-- A committer on the left and a receiver on the right. -/
abbrev Commitments (ρ σ Value Manner : Type) :=
  Network (Operation Value Manner) Unit ρ (Reception Manner) (Reply Value) σ

/-- The committer has committed to the value under the session. -/
def Commitments.Committed (n : Commitments ρ σ Value Manner) (id : SessionId) (x : Value) : Prop :=
  (.commit x id, .ok ()) ∈ n.left.finished

/-- The receiver has accepted the value for the session, revealed in the manner. -/
def Commitments.Accepted (n : Commitments ρ σ Value Manner) (manner : Manner) (id : SessionId)
    (x : Value) : Prop :=
  (.accept manner id, .ok (.value x)) ∈ n.right.finished

/-! ## Frames that read as openings -/

/-- The operations that a committer has finished, and how they ended. -/
abbrev Finished (Value Manner : Type) :=
  List (Operation Value Manner × Except ProtocolError Unit)

/-- Where `Reads` says what a frame reads as an opening of: the frame does so only for values that
were committed to under the session. -/
def Genuine (Reads : Bytes → SessionId → Value → Prop) (finished : Finished Value Manner)
    (frame : Bytes) : Prop :=
  ∀ id x, Reads frame id x → (.commit x id, .ok ()) ∈ finished

theorem Genuine.append {Reads : Bytes → SessionId → Value → Prop}
    {finished : Finished Value Manner} {frame : Bytes} (h : Genuine Reads finished frame)
    (later : Finished Value Manner) : Genuine Reads (finished ++ later) frame :=
  fun id x hreads => List.mem_append_left later (h id x hreads)

/-- What makes openings genuine: the frames of a committer read as openings only of values that it
committed to, and a receiver accepts only what it reads off a frame. -/
structure Truthful (𝒮 : Scheme ρ σ Value Commitment Manner) where
  Fits : Value → Prop
  opening : Manner
  /-- The frame reads as an opening of the session to the value. -/
  Reads : Bytes → SessionId → Value → Prop
  /-- The records of the committer are of values that it committed to in the operations it has
  finished. -/
  Holds : Finished Value Manner → ρ → Prop
  perform_upholds {finished : Finished Value Manner} {committer : ρ}
    (op : Operation Value Manner) : op.Fits Fits → Holds finished committer →
      ((𝒮.perform op).run committer).Upholds (fun _ => True) (Genuine Reads finished)
        fun p => Holds (finished ++ [(op, p.1)]) p.2
  accept_upholds (R : Bytes → Prop) (id : SessionId) (receiver : σ) :
    ((𝒮.accept opening id).run receiver).Upholds R (fun _ => True)
      fun p => ∀ x, p.1 = .ok x → ∃ frame, R frame ∧ Reads frame id x

namespace Truthful

variable {𝒮 : Scheme ρ σ Value Commitment Manner} (κ : Truthful 𝒮)

/-- What a committer holds, or will hold when it ends, is committed; what it is going to send is
genuine. -/
def CommitterSound (finished : Finished Value Manner) :
    Stage (Operation Value Manner) Unit ρ → Prop
  | .idle committer => κ.Holds finished committer
  | .busy op rest => rest.Upholds (fun _ => True) (Genuine κ.Reads finished)
      fun p => κ.Holds (finished ++ [(op, p.1)]) p.2

/-- What a receiver is going to accept is committed, if the frames it gets until then are genuine.
The committer may finish more operations meanwhile. -/
def ReceiverSound (finished : Finished Value Manner) :
    Stage (Reception Manner) (Reply Value) σ → Prop
  | .idle _ => True
  | .busy op rest => ∀ later, rest.Upholds (Genuine κ.Reads (finished ++ later)) (fun _ => True)
      fun p => ∀ id x, op = .accept κ.opening id → p.1 = .ok (.value x) →
        (.commit x id, .ok ()) ∈ finished ++ later

/-- A receiver that gets genuine frames accepts what was committed to. -/
theorem receive_upholds (op : Reception Manner) (receiver : σ) (finished : Finished Value Manner) :
    ((𝒮.receive op).run receiver).Upholds (Genuine κ.Reads finished) (fun _ => True)
      fun p => ∀ id x, op = .accept κ.opening id → p.1 = .ok (.value x) →
        (.commit x id, .ok ()) ∈ finished := by
  by_cases hop : ∃ id, op = .accept κ.opening id
  · obtain ⟨id, rfl⟩ := hop
    refine Action.upholds_map ((κ.accept_upholds _ id receiver).mono (fun _ h => h) ?_)
    rintro ⟨result, r⟩ haccept _ x ⟨⟩ hresult
    rcases result with error | y
    · cases hresult
    · cases hresult
      obtain ⟨frame, hgenuine, hreads⟩ := haccept x rfl
      exact hgenuine id x hreads
  · exact (Program.upholds_true _).mono (fun _ h => h) fun _ _ id _ heq => absurd ⟨id, heq⟩ hop

/-- The invariant of all that happens. -/
structure Sound (n : Commitments ρ σ Value Manner) : Prop where
  committer : κ.CommitterSound n.left.finished n.left.stage
  receiver : κ.ReceiverSound n.left.finished n.right.stage
  frames : ∀ frame ∈ n.toRight, Genuine κ.Reads n.left.finished frame
  accepted : ∀ id x, n.Accepted κ.opening id x → n.Committed id x

variable {κ}

theorem sound_initial {committer : ρ} (h : κ.Holds [] committer) (receiver : σ) :
    κ.Sound (Network.initial committer receiver) where
  committer := h
  receiver := trivial
  frames := nofun
  accepted := nofun

theorem ReceiverSound.append {finished : Finished Value Manner}
    {stage : Stage (Reception Manner) (Reply Value) σ} (h : κ.ReceiverSound finished stage)
    (more : Finished Value Manner) :
    κ.ReceiverSound (finished ++ more) stage := by
  cases stage with
  | idle => trivial
  | busy op rest =>
    intro later
    rw [List.append_assoc]
    exact h (more ++ later)

/-- A step of the committer keeps the invariant. -/
theorem Sound.left_step {n : Commitments ρ σ Value Manner}
    {left : Party (Operation Value Manner) Unit ρ} {toLeft toRight : List Bytes} (h : κ.Sound n)
    (hstep : Party.Step (𝒮.committerRole κ.Fits) n.left n.toLeft n.toRight left toLeft toRight) :
    κ.Sound { n with left, toLeft, toRight } := by
  obtain ⟨⟨stage, finished⟩, right, inbox, outbox⟩ := n
  obtain ⟨hcommitter, hreceiver, hframes, haccepted⟩ := h
  cases hstep with
  | start op hfits =>
    exact ⟨κ.perform_upholds op hfits hcommitter, hreceiver, hframes, haccepted⟩
  | move hmove =>
    obtain ⟨hrest, hout⟩ := Program.Upholds.move hmove hcommitter (fun _ _ => trivial) hframes
    exact ⟨hrest, hreceiver, hout, haccepted⟩
  | @finish op result r =>
    exact ⟨hcommitter, hreceiver.append [(op, result)],
      fun frame hframe => (hframes frame hframe).append [(op, result)],
      fun id x hx => List.mem_append_left _ (haccepted id x hx)⟩

/-- A step of the receiver keeps the invariant. -/
theorem Sound.right_step {n : Commitments ρ σ Value Manner}
    {right : Party (Reception Manner) (Reply Value) σ} {toRight toLeft : List Bytes}
    (h : κ.Sound n)
    (hstep : Party.Step 𝒮.receiverRole n.right n.toRight n.toLeft right toRight toLeft) :
    κ.Sound { n with right, toLeft, toRight } := by
  obtain ⟨left, ⟨stage, finished⟩, outbox, inbox⟩ := n
  obtain ⟨hcommitter, hreceiver, hframes, haccepted⟩ := h
  cases hstep with
  | start op _ =>
    exact ⟨hcommitter, fun later => κ.receive_upholds op _ _, hframes, haccepted⟩
  | move hmove =>
    refine ⟨hcommitter, fun later => ?_, fun frame hframe => ?_, haccepted⟩
    · exact (Program.Upholds.move hmove (hreceiver later)
        (fun frame hframe => (hframes frame hframe).append later) (fun _ _ => trivial)).1
    · exact hframes frame (hmove.inbox_suffix.subset hframe)
  | @finish op result r =>
    refine ⟨hcommitter, trivial, hframes, fun id x hx => ?_⟩
    rcases List.mem_append.1 hx with hold | hnew
    · exact haccepted id x hold
    · cases List.mem_singleton.1 hnew
      have hdone := hreceiver [] id x rfl rfl
      rwa [List.append_nil] at hdone

/-- Whatever the parties did, in whatever order. -/
theorem sound_of_reaches {committer : ρ} {receiver : σ} {n : Commitments ρ σ Value Manner}
    (h : Network.Reaches (𝒮.committerRole κ.Fits) 𝒮.receiverRole
      (.initial committer receiver) n) (hfirst : κ.Holds [] committer) : κ.Sound n := by
  induction h with
  | refl => exact sound_initial hfirst receiver
  | tail _ hstep ih =>
    cases hstep with
    | left h => exact ih.left_step h
    | right h => exact ih.right_step h

end Truthful

end Roles

/-! ## Frames of other types -/

open Wire in
/-- A session and one string are no session and two strings. -/
theorem not_prefix_of_string {id id' : UInt64} {a b c : Bytes} (ha : a.length < 2 ^ 64)
    (hc : c.length < 2 ^ 64) : ¬ write id ++ (write a ++ write b) <+: write id' ++ write c := by
  rintro ⟨rest, h⟩
  rw [List.append_assoc, List.append_assoc] at h
  obtain ⟨-, hstrings⟩ := List.append_inj h (by simp [write])
  -- the first string is read off, and nothing is left for the second
  have hread := Lawful.exact.read_write (show Fits a from ha) (write b ++ rest)
  have hread' := Lawful.exact.read_write (show Fits c from hc) []
  rw [hstrings, ← List.append_nil (write c), hread'] at hread
  have hnil : [] = write b ++ rest := congrArg Prod.snd (Option.some.inj hread)
  have hlen := congrArg List.length hnil
  rw [write_bytes] at hlen
  simp [write] at hlen
  omega

namespace Pedersen

open CyclicGroup

variable {G : CyclicGroup}

/-- The frame reads as an opening of the session to the value. -/
def Reads (frame : Bytes) (id : SessionId) (x : G.Scalar) : Prop :=
  ∃ r, Conveys OpeningMessage.Writes (some frame) (id, x, r)

theorem length_of_decodeScalar? {bytes : Bytes} {x : G.Scalar}
    (h : G.decodeScalar? bytes = some x) : bytes.length = G.scalarWidth := by
  unfold decodeScalar? at h
  split at h
  · assumption
  · cases h

/-- A session and one string do not read as an opening. -/
theorem not_reads_string (id' : SessionId) {c : Bytes} (hc : c.length < 2 ^ 64) (id : SessionId)
    (x : G.Scalar) : ¬ Reads (Wire.write id' ++ Wire.write c) id x := by
  rintro ⟨r, _, message, ⟨⟩, hread, -⟩
  obtain ⟨hfits, hfront⟩ := (Wire.decode_eq_ok_iff _ _).1 hread
  exact not_prefix_of_string hfits.2.1 hc hfront

/-- A single exponent does not read as an opening, which has two. -/
theorem not_reads_response (z : G.Scalar) (id : SessionId) (x : G.Scalar) :
    ¬ Reads (Wire.write (ResponseMessage.encode z)) id x := by
  rintro ⟨r, _, message, ⟨⟩, hread, hid, hx, hr⟩
  obtain ⟨-, hfront⟩ := (Wire.decode_eq_ok_iff _ _).1 hread
  have hlen : (Wire.write message.id ++ (Wire.write message.x ++ Wire.write message.r)).length ≤
      (Wire.write (G.encodeScalar z)).length := hfront.length_le
  simp only [Wire.write_bytes, List.length_append, length_encodeScalar,
    length_of_decodeScalar? hx, length_of_decodeScalar? hr] at hlen
  simp [Wire.write] at hlen
  omega

theorem reads_opening (hG : G.Compact) {id id' : SessionId} {x x' r : G.Scalar}
    (h : Reads (Wire.write (OpeningMessage.mk id (G.encodeScalar x) (G.encodeScalar r))) id' x') :
    id' = id ∧ x' = x := by
  have hscalar : ∀ a : G.Scalar, (G.encodeScalar a).length < 2 ^ 64 := by
    intro a
    rw [length_encodeScalar]
    exact hG.scalarWidth_lt
  have hfits : Wire.Fits (OpeningMessage.mk id (G.encodeScalar x) (G.encodeScalar r)) :=
    ⟨trivial, hscalar x, hscalar r⟩
  obtain ⟨r', _, message, ⟨⟩, hread, hid, hx, -⟩ := h
  cases (Wire.decode_write hfits).symm.trans hread
  exact ⟨hid.symm, Option.some.inj (hx.symm.trans (decodeScalar?_encodeScalar x))⟩

/-- An announcement for one equation is a count, one, and one string. -/
theorem not_reads_announcement (hG : G.Compact) (a : Announcement G 1) (id : SessionId)
    (x : G.Scalar) : ¬ Reads (Wire.write (AnnouncementMessage.encode a)) id x := by
  obtain ⟨c, hc⟩ := List.length_eq_one_iff.1 a.length_toList
  have hwrite : Wire.write (AnnouncementMessage.encode a) =
      Wire.write (1 : UInt64) ++ Wire.write (G.encode c) := by
    show Wire.write (a.toList.map G.encode) = _
    rw [hc, Wire.write_list]
    simp
  rw [hwrite]
  exact not_reads_string 1 (hG.length_encode_lt c) id x

/-- In a proof nothing is sent that reads as an opening. -/
theorem prove_upholds (hG : G.Compact) (role : SigmaRole G) (S : Statement G 1) (w : G.Scalar) :
    (role.prove S w).Upholds (fun _ => True) (fun frame => ∀ id x, ¬ Reads (G := G) frame id x)
      fun _ => True := by
  unfold SigmaRole.prove SigmaRole.announce
  split
  · rw [bind_assoc]
    refine .scalar fun r => ?_
    rw [bind_assoc]
    refine .note ?_
    rw [pure_bind]
    refine .send (not_reads_announcement hG _) ?_ trivial
    refine .receive (fun _ => trivial) fun _ e _ _ => ?_
    split
    · trivial
    · exact .send (not_reads_response _) trivial trivial
  · trivial

namespace Committer

/-- The records are of values that were committed to. -/
def Holds (finished : Finished G.Scalar Manner) (committer : Committer G) : Prop :=
  committer.sessions.All fun id record => (.commit record.value id, .ok ()) ∈ finished

theorem Holds.append {finished : Finished G.Scalar Manner} {committer : Committer G}
    (h : Holds finished committer) (later : Finished G.Scalar Manner) :
    Holds (finished ++ later) committer :=
  Sessions.All.mono h fun _ _ hmem => List.mem_append_left _ hmem

theorem run_openRecord_none (committer : Committer G) (id : SessionId)
    (hfind : committer.sessions.find? id = none) :
    (openRecord id).run committer =
      .done (.error (.input (.unknownSession id)), committer) := by
  unfold openRecord
  rw [Action.run_state_bind, hfind]
  rfl

variable {committer : Committer G} {finished : Finished G.Scalar Manner}

theorem commit_upholds (hG : G.Compact) (h : Holds finished committer) (x : G.Scalar)
    (id : SessionId) :
    ((commit x id).run committer).Upholds (fun _ => True) (Genuine Reads finished)
      fun p => Holds (finished ++ [(.commit x id, p.1)]) p.2 := by
  rcases hfind : committer.sessions.find? id with _ | record
  · refine (atomic_commit x id).upholds ?_
    rw [runIn_commit _ _ _ hfind]
    refine .scalar fun r => .send ?_ (.note ?_) (h.append _)
    · exact fun id' x' hreads =>
        absurd hreads (not_reads_string id (hG.length_encode_lt _) id' x')
    · exact (h.append _).insert (List.mem_append_right _ (List.mem_singleton.2 rfl))
  · rw [run_commit_open x (by rw [hfind]; rfl)]
    exact h.append _

theorem decommit_upholds (hG : G.Compact) (h : Holds finished committer) (id : SessionId) :
    ((decommit id).run committer).Upholds (fun _ => True) (Genuine Reads finished)
      fun p => Holds (finished ++ [(.reveal .opening id, p.1)]) p.2 := by
  rcases hfind : committer.sessions.find? id with _ | record
  · unfold decommit
    rw [Action.run_bind, run_openRecord_none committer id hfind]
    exact h.append _
  · refine (steady_decommit id).atomic.upholds ?_
    rw [runIn_decommit _ _ hfind]
    refine .send ?_ (.note (h.append _)) (h.append _)
    intro id' x' hreads
    obtain ⟨rfl, rfl⟩ := reads_opening hG hreads
    exact h id' record hfind

theorem prove_upholds (hG : G.Compact) (h : Holds finished committer) (id : SessionId) :
    ((prove id).run committer).Upholds (fun _ => True) (Genuine Reads finished)
      fun p => Holds (finished ++ [(.reveal .proof id, p.1)]) p.2 := by
  rcases hfind : committer.sessions.find? id with _ | record
  · unfold prove
    rw [Action.run_bind, run_openRecord_none committer id hfind]
    exact h.append _
  · refine (steady_prove id).atomic.upholds ?_
    rw [runIn_prove _ _ hfind]
    refine .send ?_ ?_ (h.append _)
    · intro id' x' hreads
      refine absurd hreads (not_reads_string id ?_ id' x')
      rw [length_encodeScalar]
      exact hG.scalarWidth_lt
    · refine .bind (Program.Upholds.mono (Pedersen.prove_upholds hG _ _ _)
        (fun frame hno id x hreads => absurd hreads (hno id x)) fun result _ => ?_)
      cases result with
      | ok => exact Attempt.Upholds.note (h.append _)
      | error error => exact h.append _

end Committer

theorem Receiver.receiveOpening_upholds (R : Bytes → Prop) (id : SessionId)
    (receiver : Receiver G) :
    ((receiveOpening id).run receiver).Upholds R (fun _ => True)
      fun p => ∀ x, p.1 = .ok x → ∃ frame, R frame ∧ Reads frame id x := by
  rcases hfind : receiver.commitments.find? id with _ | c
  · rw [run_receiveOpening_none receiver id hfind]
    exact nofun
  · refine (steady_receiveOpening id).atomic.upholds ?_
    rw [receiveOpening_eq receiver id hfind]
    refine .receive (fun _ => nofun) fun frame message hframe hread => ?_
    refine .judge (fun _ => nofun) fun x hcheck => .note ?_
    rintro _ ⟨⟩
    obtain ⟨r, hwrites, -⟩ := Key.checkOpening_eq_ok_iff.1 hcheck
    exact ⟨frame, hframe, r, frame, message, rfl, hread, hwrites⟩

/-- Only openings of a Pedersen commitment read as such. -/
def truthful (hG : G.Compact) : Truthful (scheme G) where
  Fits _ := True
  opening := .opening
  Reads := Reads
  Holds := Committer.Holds
  perform_upholds {_ committer} op _ h := by
    cases op with
    | commit x id => exact Committer.commit_upholds hG h x id
    | reveal manner id =>
      cases manner with
      | opening => exact Committer.decommit_upholds hG h id
      | proof => exact Committer.prove_upholds hG h id
    | close id => exact (h.append _).erase id
  accept_upholds := Receiver.receiveOpening_upholds

end Pedersen

namespace Hashed

/-- The frame reads as an opening of the session to the value. -/
def Reads (frame : Bytes) (id : SessionId) (x : Bytes) : Prop :=
  ∃ r, Conveys OpeningMessage.Writes (some frame) (id, r, x)

/-- A commitment, a session and one string, does not read as an opening. -/
theorem not_reads_commitment (id' : SessionId) {c : Bytes} (hc : c.length < 2 ^ 64)
    (id : SessionId) (x : Bytes) : ¬ Reads (Wire.write (CommitmentMessage.mk id' c)) id x := by
  rintro ⟨r, _, message, ⟨⟩, hread, -⟩
  obtain ⟨hfits, hfront⟩ := (Wire.decode_eq_ok_iff _ _).1 hread
  exact not_prefix_of_string hfits.2.1 hc hfront

theorem reads_opening {id id' : SessionId} {r x x' : Bytes} (hr : r.length < 2 ^ 64)
    (hx : x.length < 2 ^ 64) (h : Reads (Wire.write (OpeningMessage.mk id r x)) id' x') :
    id' = id ∧ x' = x := by
  have hfits : Wire.Fits (OpeningMessage.mk id r x) := ⟨trivial, hr, hx⟩
  obtain ⟨r', _, message, ⟨⟩, hread, hwrites⟩ := h
  cases (Wire.decode_write hfits).symm.trans hread
  cases hwrites
  exact ⟨rfl, rfl⟩

namespace Committer

/-- The records are of values that were committed to, and fit into frames. -/
def Holds (finished : Finished Bytes Unit) (committer : Committer) : Prop :=
  committer.sessions.All fun id record => record.randomness.length < 2 ^ 64 ∧
    record.value.length < 2 ^ 64 ∧ (.commit record.value id, .ok ()) ∈ finished

variable {committer : Committer} {finished : Finished Bytes Unit}

theorem Holds.append (h : Holds finished committer) (later : Finished Bytes Unit) :
    Holds (finished ++ later) committer :=
  Sessions.All.mono h fun _ _ ⟨hr, hx, hmem⟩ => ⟨hr, hx, List.mem_append_left _ hmem⟩

theorem commit_upholds (h : Holds finished committer) {x : Bytes} (hx : x.length < 2 ^ 64)
    (id : SessionId) :
    ((commit x id).run committer).Upholds (fun _ => True) (Genuine Reads finished)
      fun p => Holds (finished ++ [(.commit x id, p.1)]) p.2 := by
  rcases hfind : committer.sessions.find? id with _ | record
  · refine (atomic_commit x id).upholds ?_
    rw [runIn_commit _ _ _ hfind]
    refine .bytes fun r hr => .send ?_ (.note ?_) (h.append _)
    · exact fun id' x' hreads =>
        absurd hreads (not_reads_commitment id (length_digest_lt _ _ _ _) id' x')
    · refine (h.append _).insert ⟨?_, hx, List.mem_append_right _ (List.mem_singleton.2 rfl)⟩
      rw [hr]
      norm_num
  · rw [run_commit_open x (by rw [hfind]; rfl)]
    exact h.append _

theorem decommit_upholds (h : Holds finished committer) (id : SessionId) :
    ((decommit id).run committer).Upholds (fun _ => True) (Genuine Reads finished)
      fun p => Holds (finished ++ [(.reveal () id, p.1)]) p.2 := by
  rcases hfind : committer.sessions.find? id with _ | record
  · unfold decommit
    rw [Action.run_state_bind, hfind]
    exact h.append _
  · refine (steady_decommit id).atomic.upholds ?_
    rw [runIn_decommit _ _ hfind]
    refine .send ?_ (.note (h.append _)) (h.append _)
    intro id' x' hreads
    obtain ⟨hr, hx, hmem⟩ := h id record hfind
    obtain ⟨rfl, rfl⟩ := reads_opening hr hx hreads
    exact hmem

end Committer

theorem Receiver.receiveOpening_upholds (R : Bytes → Prop) (id : SessionId)
    (receiver : Receiver) :
    ((receiveOpening id).run receiver).Upholds R (fun _ => True)
      fun p => ∀ x, p.1 = .ok x → ∃ frame, R frame ∧ Reads frame id x := by
  rcases hfind : receiver.commitments.find? id with _ | c
  · rw [run_receiveOpening_none hfind]
    exact nofun
  · refine (steady_receiveOpening id).atomic.upholds ?_
    rw [receiveOpening_eq receiver id hfind]
    refine .receive (fun _ => nofun) fun frame message hframe hread => ?_
    refine .judge (fun _ => nofun) fun x hcheck => .note ?_
    rintro _ ⟨⟩
    obtain ⟨r, hwrites, -⟩ := checkOpening_eq_ok_iff.1 hcheck
    exact ⟨frame, hframe, r, frame, message, rfl, hread, hwrites⟩

/-- Only openings of a hash commitment read as such. -/
def truthful : Truthful scheme where
  Fits x := x.length < 2 ^ 64
  opening := ()
  Reads := Reads
  Holds := Committer.Holds
  perform_upholds {_ committer} op hfits h := by
    cases op with
    | commit x id => exact Committer.commit_upholds h hfits id
    | reveal manner id => exact Committer.decommit_upholds h id
    | close id => exact (h.append _).erase id
  accept_upholds := Receiver.receiveOpening_upholds

end Hashed

/-! ## Any order of steps -/

/-- Whatever an honest committer and a receiver do, in any order and at the same time, every value
that the receiver accepts as an opening under a session is one that the committer committed to
under that session. -/
theorem openings_genuine :
    (∀ (G : CyclicGroup) (role : SigmaRole G) (key : Pedersen.Key G)
      (receiver : Pedersen.Receiver G)
      (n : Commitments (Pedersen.Committer G) (Pedersen.Receiver G) G.Scalar Manner),
      G.Compact →
      Network.Reaches ((Pedersen.scheme G).committerRole fun _ => True)
        (Pedersen.scheme G).receiverRole (.initial { role, key } receiver) n →
      ∀ id x, n.Accepted .opening id x → n.Committed id x) ∧
    ∀ (hash : Shake) (span : Option String) (receiver : Hashed.Receiver)
      (n : Commitments Hashed.Committer Hashed.Receiver Bytes Unit),
      Network.Reaches (Hashed.scheme.committerRole fun x => x.length < 2 ^ 64)
        Hashed.scheme.receiverRole (.initial { hash, span } receiver) n →
      ∀ id x, n.Accepted () id x → n.Committed id x := by
  constructor
  · intro G role key receiver n hG hn id x
    exact ((Pedersen.truthful hG).sound_of_reaches hn .empty).accepted id x
  · intro hash span receiver n hn id x
    exact (Hashed.truthful.sound_of_reaches hn .empty).accepted id x

open CyclicGroup in
/-- Two values are committed to and revealed in the other order. The receiver expects the first
one twice: at first it gets the second, which it refuses, and then the first. -/
theorem openings_genuine_order281 :
    ∃ n : Commitments (Pedersen.Committer Residues.order281.group)
        (Pedersen.Receiver Residues.order281.group) Residues.order281.group.Scalar Manner,
      Network.Reaches ((Pedersen.scheme Residues.order281.group).committerRole fun _ => True)
        (Pedersen.scheme Residues.order281.group).receiverRole
        (.initial { role := .order281, key := Pedersen.keyOf (scalar _ 2) }
          { role := .order281, key := Pedersen.keyOf (scalar _ 2), trapdoor := scalar _ 2 }) n ∧
      n.right.finished =
        [(.commitment, .ok (.session 1)), (.commitment, .ok (.session 2)),
          (.accept .opening 1, .error (.cheating (.sessionMismatch 1 2))),
          (.accept .opening 1, .ok (.value (scalar _ 5)))] ∧
      n.Committed 1 (scalar _ 5) := by
  have h0 : Network.Reaches
      ((Pedersen.scheme Residues.order281.group).committerRole fun _ => True)
      (Pedersen.scheme Residues.order281.group).receiverRole
      (.initial { role := .order281, key := Pedersen.keyOf (scalar _ 2) }
        { role := .order281, key := Pedersen.keyOf (scalar _ 2), trapdoor := scalar _ 2 }) _ :=
    .refl
  have h1 := Network.Reaches.run_both (.fresh (.constant 1) (.constant 1)) h0
    (.commit (scalar _ 5) 1) trivial .commitment trivial rfl
  have h2 := h1.run_left (.commit (scalar _ 6) 2) trivial (.constant 1) (fun _ => true) rfl
  have h3 := h2.run_left (.reveal .opening 2) trivial (.constant 1) (fun _ => true) rfl
  have h4 := h3.run_left (.reveal .opening 1) trivial (.constant 1) (fun _ => true) rfl
  have h5 := h4.run_right .commitment trivial (.constant 1) (fun _ => true) rfl
  have h6 := h5.run_right (.accept .opening 1) trivial (.constant 1) (fun _ => true) rfl
  have h7 := h6.run_right (.accept .opening 1) trivial (.constant 1) (fun _ => true) rfl
  obtain ⟨hpedersen, -⟩ := openings_genuine
  refine ⟨_, h7, rfl, hpedersen _ _ _ _ _ Residues.order281.compact h7 1 _ ?_⟩
  exact List.mem_append_right _ (List.mem_singleton.2 rfl)

end TwoParty
