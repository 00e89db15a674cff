/-
What a committer keeps. Over any calls of its operations, with any frames coming in and any sends
refused, it has a record for exactly the sessions that were opened and not closed since; the record
is that of the commitment which was sent then, and opens it. A record appears by a commit that
succeeds, as its last step, and goes by closing its session; nothing else changes the records.
-/
import TwoParty.Proofs.Action
import TwoParty.Proofs.Commitment.Agreement

namespace TwoParty

/-! ## Standing commits -/

namespace Operation

variable {Value Manner : Type}

/-- The session that an operation is for. -/
def session : Operation Value Manner → SessionId
  | commit _ id => id
  | reveal _ id => id
  | close id => id

end Operation

section Standing

variable {ρ Value Manner : Type} {id : SessionId} {call next : Call (Operation Value Manner) Unit ρ}
  {calls : List (Call (Operation Value Manner) Unit ρ)}

/-- The call commits to a value under the session, and succeeds. -/
def Call.Commits (call : Call (Operation Value Manner) Unit ρ) (id : SessionId) : Prop :=
  (∃ value, call.op = .commit value id) ∧ call.outcome.result.1 = .ok ()

def Call.Closes (call : Call (Operation Value Manner) Unit ρ) (id : SessionId) : Prop :=
  call.op = .close id

/-- The call is the last that opened the session, and the session was not closed after it. -/
def Standing (id : SessionId) (calls : List (Call (Operation Value Manner) Unit ρ))
    (call : Call (Operation Value Manner) Unit ρ) : Prop :=
  ∃ before after, calls = before ++ call :: after ∧ call.Commits id ∧
    ∀ later ∈ after, ¬ later.Commits id ∧ ¬ later.Closes id

theorem standing_snoc : Standing id (calls ++ [next]) call ↔
    next = call ∧ call.Commits id ∨
      Standing id calls call ∧ ¬ next.Commits id ∧ ¬ next.Closes id := by
  constructor
  · rintro ⟨before, after, hcalls, hcommits, hafter⟩
    rcases List.eq_nil_or_concat after with rfl | ⟨after, last, rfl⟩
    · obtain ⟨-, hnext⟩ := List.append_inj' hcalls rfl
      cases hnext
      exact .inl ⟨rfl, hcommits⟩
    · rw [List.concat_eq_append, ← List.cons_append, ← List.append_assoc] at hcalls
      obtain ⟨rfl, hnext⟩ := List.append_inj' hcalls rfl
      cases hnext
      refine .inr ⟨⟨before, after, rfl, hcommits, fun later hlater => ?_⟩, ?_⟩
      · exact hafter later (by simp [hlater])
      · exact hafter next (by simp)
  · rintro (⟨rfl, hcommits⟩ | ⟨⟨before, after, rfl, hcommits, hafter⟩, hnext⟩)
    · exact ⟨calls, [], rfl, hcommits, nofun⟩
    · refine ⟨before, after ++ [next], by simp, hcommits, fun later hlater => ?_⟩
      rcases List.mem_append.1 hlater with h | h
      · exact hafter later h
      · cases List.mem_singleton.1 h
        exact hnext

theorem not_standing_nil : ¬ Standing id ([] : List (Call (Operation Value Manner) Unit ρ)) call :=
  fun ⟨before, _, h, _⟩ => by cases before <;> cases h

end Standing

/-! ## Kept records -/

section Kept

variable {ρ σ Value Randomness Commitment Manner : Type}

/-- After the calls the committer has the records that it should have, and no operation will change
them but a commit that succeeds or a close, and these only for their session. -/
structure Kept (𝒮 : Scheme ρ σ Value Commitment Manner)
    (record? : ρ → SessionId → Option (CommitmentRecord Value Randomness Commitment))
    (frame : SessionId → Commitment → Bytes)
    (Opens : SessionId → CommitmentRecord Value Randomness Commitment → Prop)
    (calls : List (Call (Operation Value Manner) Unit ρ)) (committer : ρ) : Prop where
  /-- The open sessions. -/
  isSome_iff (id : SessionId) :
    (record? committer id).isSome = true ↔ ∃ call, Standing id calls call
  /-- The commitment went out in the commit that stands, and the record opens it. -/
  recorded (id : SessionId) (record : CommitmentRecord Value Randomness Commitment) :
    record? committer id = some record → Opens id record ∧ ∃ call, Standing id calls call ∧
      call.op = .commit record.value id ∧ call.outcome.sent = [frame id record.commitment]
  /-- A commit under an open session does nothing at all. -/
  refuses (value : Value) (id : SessionId) : (record? committer id).isSome = true →
    (𝒮.commit value id).run committer = .done (.error (.input (.sessionInUse id)), committer)
  fails (op : Operation Value Manner) (e : Endpoint)
    (o : Outcome (Except ProtocolError Unit × ρ)) (error : ProtocolError) :
    ((𝒮.perform op).run committer).run e = some o → o.result.1 = .error error →
      o.result.2 = committer
  reveals (manner : Manner) (id : SessionId) (e : Endpoint)
    (o : Outcome (Except ProtocolError Unit × ρ)) :
    ((𝒮.reveal manner id).run committer).run e = some o → o.result.2 = committer
  elsewhere (op : Operation Value Manner) (e : Endpoint)
    (o : Outcome (Except ProtocolError Unit × ρ)) (id : SessionId) :
    ((𝒮.perform op).run committer).run e = some o → op.session ≠ id →
      record? o.result.2 id = record? committer id

/-- How the operations of a committer act on its records. -/
structure Bookkeeping (𝒮 : Scheme ρ σ Value Commitment Manner) (Randomness : Type) where
  holding : Table Value Randomness Commitment → ρ
  record? : ρ → SessionId → Option (CommitmentRecord Value Randomness Commitment)
  frame : SessionId → Commitment → Bytes
  Opens : SessionId → CommitmentRecord Value Randomness Commitment → Prop
  record?_holding (T : Table Value Randomness Commitment) (id : SessionId) :
    record? (holding T) id = T.find? id
  commit_open {T : Table Value Randomness Commitment} {id : SessionId} (value : Value) :
    (T.find? id).isSome = true →
      (𝒮.commit value id).run (holding T) = .done (.error (.input (.sessionInUse id)), holding T)
  /-- A commit that succeeds under a new session has sent the commitment of the record it keeps. -/
  commit_new {T : Table Value Randomness Commitment} {id : SessionId} (value : Value)
    (e : Endpoint) : T.find? id = none →
      ((𝒮.commit value id).run (holding T)).Ensures e True fun o => o.result.1 = .ok () →
        ∃ record, record.value = value ∧ Opens id record ∧
          o.result.2 = holding (T.insert id record) ∧ o.sent = [frame id record.commitment]
  commit_atomic (value : Value) (id : SessionId) : (𝒮.commit value id).Atomic
  reveal_steady (manner : Manner) (id : SessionId) : (𝒮.reveal manner id).Steady
  forget_holding (T : Table Value Randomness Commitment) (id : SessionId) :
    𝒮.forgetSent id (holding T) = holding (T.erase id)

namespace Bookkeeping

variable {𝒮 : Scheme ρ σ Value Commitment Manner} (κ : Bookkeeping 𝒮 Randomness)
  {T : Table Value Randomness Commitment}

include κ in
/-- An operation that fails changes no record. -/
theorem perform_atomic (op : Operation Value Manner) : (𝒮.perform op).Atomic := by
  cases op with
  | commit value id => exact κ.commit_atomic value id
  | reveal manner id => exact (κ.reveal_steady manner id).atomic
  | close id => exact .state_bind fun _ => .put _

/-- The ways an operation can go. -/
theorem perform_cases {op : Operation Value Manner} {e : Endpoint}
    {o : Outcome (Except ProtocolError Unit × ρ)}
    (hrun : ((𝒮.perform op).run (κ.holding T)).run e = some o) :
    (∃ value id record, op = .commit value id ∧ T.find? id = none ∧ record.value = value ∧
      κ.Opens id record ∧ o.result = (.ok (), κ.holding (T.insert id record)) ∧
      o.sent = [κ.frame id record.commitment]) ∨
    (∃ id, op = .close id ∧ o.result = (.ok (), κ.holding (T.erase id))) ∨
    (o.result.2 = κ.holding T ∧ (∀ id, op ≠ .close id) ∧
      ∀ value id, op = .commit value id → ∃ error, o.result.1 = .error error) := by
  cases op with
  | commit value id =>
    rcases hresult : o.result.1 with error | ⟨⟩
    · have hkeeps := (κ.perform_atomic _).keeps hrun hresult
      exact .inr (.inr ⟨hkeeps, nofun, fun _ _ _ => ⟨error, rfl⟩⟩)
    · rcases hfind : T.find? id with _ | record
      · obtain ⟨record, hvalue, hopens, ho, hsent⟩ :=
          (κ.commit_new value e hfind).outcome hrun hresult
        exact .inl ⟨value, id, record, rfl, hfind, hvalue, hopens, Prod.ext hresult ho, hsent⟩
      · -- a commit under an open session does not succeed
        have hdone := κ.commit_open value (Option.isSome_of_mem hfind)
        unfold Scheme.perform at hrun
        rw [hdone] at hrun
        cases hrun
        cases hresult
  | reveal manner id =>
    exact .inr (.inr ⟨(κ.reveal_steady manner id).keeps hrun, nofun, nofun⟩)
  | close id =>
    cases hrun
    exact .inr (.inl ⟨id, rfl, by rw [← κ.forget_holding]⟩)

/-- The record opens its commitment, which went out in the commit that stands. -/
def Recorded (calls : List (Call (Operation Value Manner) Unit ρ)) (id : SessionId)
    (record : CommitmentRecord Value Randomness Commitment) : Prop :=
  κ.Opens id record ∧ ∃ call, Standing id calls call ∧ call.op = .commit record.value id ∧
    call.outcome.sent = [κ.frame id record.commitment]

/-- The table has one record for each session with a standing commit, that of the commit. -/
structure Tracks (T : Table Value Randomness Commitment)
    (calls : List (Call (Operation Value Manner) Unit ρ)) : Prop where
  standing {id : SessionId} {call : Call (Operation Value Manner) Unit ρ} :
    Standing id calls call → (T.find? id).isSome = true
  recorded : T.All (κ.Recorded calls)

variable {κ} {calls : List (Call (Operation Value Manner) Unit ρ)}
  {next : Call (Operation Value Manner) Unit ρ} {id : SessionId}

theorem Tracks.nil : κ.Tracks ⟨[]⟩ [] :=
  ⟨fun h => absurd h not_standing_nil, .empty⟩

theorem Recorded.snoc {record : CommitmentRecord Value Randomness Commitment}
    (h : κ.Recorded calls id record) (hcommits : ¬ next.Commits id) (hcloses : ¬ next.Closes id) :
    κ.Recorded (calls ++ [next]) id record := by
  obtain ⟨hopens, call, hstanding, hcall⟩ := h
  exact ⟨hopens, call, standing_snoc.2 (.inr ⟨hstanding, hcommits, hcloses⟩), hcall⟩

/-- A session is opened. -/
theorem Tracks.opened (h : κ.Tracks T calls)
    {record : CommitmentRecord Value Randomness Commitment}
    (hop : next.op = .commit record.value id) (hok : next.outcome.result.1 = .ok ())
    (hopens : κ.Opens id record)
    (hsent : next.outcome.sent = [κ.frame id record.commitment]) :
    κ.Tracks (T.insert id record) (calls ++ [next]) := by
  have honly : ∀ other, next.Commits other → other = id := by
    rintro other ⟨⟨_, hother⟩, -⟩
    cases hop.symm.trans hother
    rfl
  refine ⟨fun {other call} hstanding => ?_, fun other b hb => ?_⟩
  · rw [Sessions.find?_insert]
    split
    · rfl
    · rename_i hne
      rcases standing_snoc.1 hstanding with ⟨rfl, hother⟩ | ⟨hbefore, -⟩
      · exact absurd (honly other hother) hne
      · exact h.standing hbefore
  · rw [Sessions.find?_insert] at hb
    split at hb
    · rename_i heq
      cases heq
      cases hb
      exact ⟨hopens, next, standing_snoc.2 (.inl ⟨rfl, ⟨_, hop⟩, hok⟩), hop, hsent⟩
    · rename_i hne
      refine (h.recorded other b hb).snoc (fun hother => hne (honly other hother)) fun hother => ?_
      cases hop.symm.trans hother

/-- A session is closed. -/
theorem Tracks.closed (h : κ.Tracks T calls) (hop : next.op = .close id) :
    κ.Tracks (T.erase id) (calls ++ [next]) := by
  have hcommits : ∀ other, ¬ next.Commits other := by
    rintro other ⟨⟨_, hother⟩, -⟩
    cases hop.symm.trans hother
  refine ⟨fun {other call} hstanding => ?_, fun other b hb => ?_⟩
  · rcases standing_snoc.1 hstanding with ⟨rfl, hother⟩ | ⟨hbefore, -, hcloses⟩
    · exact absurd hother (hcommits other)
    · rw [Sessions.find?_erase, if_neg]
      · exact h.standing hbefore
      · rintro rfl
        exact hcloses hop
  · rw [Sessions.find?_erase] at hb
    split at hb
    · cases hb
    · rename_i hne
      refine (h.recorded other b hb).snoc (hcommits other) fun hother => hne ?_
      cases hop.symm.trans hother
      rfl

/-- Nothing is opened or closed. -/
theorem Tracks.unchanged (h : κ.Tracks T calls) (hcommits : ∀ id, ¬ next.Commits id)
    (hcloses : ∀ id, ¬ next.Closes id) : κ.Tracks T (calls ++ [next]) := by
  refine ⟨fun {other call} hstanding => ?_, fun other b hb => ?_⟩
  · rcases standing_snoc.1 hstanding with ⟨rfl, hother⟩ | ⟨hbefore, -⟩
    · exact absurd hother (hcommits other)
    · exact h.standing hbefore
  · exact (h.recorded other b hb).snoc (hcommits other) (hcloses other)

/-- One more call: the table goes along with it. -/
theorem Tracks.snoc (h : κ.Tracks T calls) {op : Operation Value Manner} {e : Endpoint}
    {o : Outcome (Except ProtocolError Unit × ρ)}
    (hrun : ((𝒮.perform op).run (κ.holding T)).run e = some o) :
    ∃ T', o.result.2 = κ.holding T' ∧ κ.Tracks T' (calls ++ [⟨op, e, o⟩]) := by
  rcases κ.perform_cases hrun with ⟨_, id, record, rfl, -, rfl, hopens, ho, hsent⟩ |
      ⟨id, rfl, ho⟩ | ⟨ho, hclose, hcommit⟩
  · exact ⟨T.insert id record, by rw [ho], h.opened rfl (congrArg Prod.fst ho) hopens hsent⟩
  · exact ⟨T.erase id, by rw [ho], h.closed rfl⟩
  · refine ⟨T, ho, h.unchanged ?_ hclose⟩
    rintro id ⟨⟨value, hop⟩, hok⟩
    obtain ⟨error, herror⟩ := hcommit value id hop
    cases hok.symm.trans herror

/-- A committer that starts without sessions goes from one table to the next. -/
theorem exists_tracks {committer : ρ} (h : Calls 𝒮.perform (κ.holding ⟨[]⟩) calls committer) :
    ∃ T, committer = κ.holding T ∧ κ.Tracks T calls := by
  induction h with
  | nil => exact ⟨⟨[]⟩, rfl, .nil⟩
  | snoc _ op e hrun ih =>
    obtain ⟨T, rfl, htracks⟩ := ih
    exact htracks.snoc hrun

/-- The committer has what it should have, after any calls. -/
theorem kept {committer : ρ} (h : Calls 𝒮.perform (κ.holding ⟨[]⟩) calls committer) :
    Kept 𝒮 κ.record? κ.frame κ.Opens calls committer := by
  obtain ⟨T, rfl, htracks⟩ := exists_tracks h
  constructor
  case isSome_iff =>
    intro id
    rw [κ.record?_holding]
    constructor
    · intro hsome
      obtain ⟨record, hrecord⟩ := Option.isSome_iff_exists.1 hsome
      obtain ⟨-, call, hstanding, -⟩ := htracks.recorded id record hrecord
      exact ⟨call, hstanding⟩
    · rintro ⟨call, hstanding⟩
      exact htracks.standing hstanding
  case recorded =>
    intro id record hrecord
    rw [κ.record?_holding] at hrecord
    exact htracks.recorded id record hrecord
  case refuses =>
    intro value id hsome
    rw [κ.record?_holding] at hsome
    exact κ.commit_open value hsome
  case fails =>
    intro op e o error hrun herror
    exact (κ.perform_atomic op).keeps hrun herror
  case reveals =>
    intro manner id e o hrun
    exact (κ.reveal_steady manner id).keeps hrun
  case elsewhere =>
    intro op e o id hrun hne
    rcases κ.perform_cases hrun with ⟨_, _, _, rfl, _, _, _, ho, -⟩ | ⟨_, rfl, ho⟩ | ⟨ho, -⟩
    · rw [ho, κ.record?_holding, κ.record?_holding, Sessions.find?_insert, if_neg]
      exact fun heq => hne heq.symm
    · rw [ho, κ.record?_holding, κ.record?_holding, Sessions.find?_erase, if_neg]
      exact fun heq => hne heq.symm
    · rw [ho]

end Bookkeeping

end Kept

/-! ## The schemes -/

namespace Pedersen

variable {G : CyclicGroup}

namespace Committer

theorem steady_noteSession (message : String) (id : SessionId) :
    (noteSession message id : Action (Committer G) Unit).Steady :=
  .state_bind fun _ => .of _

theorem steady_openRecord (id : SessionId) :
    (openRecord id : Action (Committer G) _).Steady := by
  refine .state_bind fun committer => ?_
  split
  · exact .pure _
  · exact .of _

theorem atomic_commit (x : G.Scalar) (id : SessionId) : (commit x id).Atomic := by
  refine .state_bind fun committer => .ite (Action.Steady.of _).atomic ?_
  refine .bind (.of _) fun r => .bind (.of _) fun _ => ?_
  exact .bind (steady_noteSession _ id) fun _ => .put _

theorem run_commit_open {committer : Committer G} {id : SessionId} (x : G.Scalar)
    (hopen : (committer.sessions.find? id).isSome = true) :
    (commit x id).run committer =
      .done (.error (.input (.sessionInUse id)), committer) := by
  unfold commit
  rw [Action.run_state_bind, if_pos hopen]
  rfl

theorem steady_decommit (id : SessionId) : (decommit id : Action (Committer G) Unit).Steady :=
  (steady_openRecord id).bind fun _ => (Action.Steady.of _).bind fun _ => steady_noteSession _ id

theorem steady_prove (id : SessionId) : (prove id : Action (Committer G) Unit).Steady :=
  (steady_openRecord id).bind fun _ => .state_bind fun _ => (Action.Steady.of _).bind fun _ =>
    (Action.Steady.of _).bind fun _ => steady_noteSession _ id

end Committer

/-- The records of a committer. -/
def bookkeeping (role : SigmaRole G) (key : Key G) : Bookkeeping (scheme G) G.Scalar where
  holding T := ⟨role, key, T⟩
  record? committer := committer.sessions.find?
  frame id c := Wire.write (CommitmentMessage.mk id (G.encode c))
  Opens _ record := record.commitment =
    G.multiply (G.exponentiate key.g record.randomness) (G.exponentiate key.h record.value)
  record?_holding _ _ := rfl
  commit_open x hopen := Committer.run_commit_open x hopen
  commit_new {T id} x e hnew := by
    refine (Committer.atomic_commit x id).ensures ?_
    rw [Committer.runIn_commit _ _ _ hnew]
    refine .scalar (fun _ => trivial) fun r source _ => .send (fun _ => .note (.pure ?_)) ?_
    · exact fun _ => ⟨⟨x, r, key.commitment x r⟩, rfl, rfl, rfl, rfl⟩
    · exact fun _ => nofun
  commit_atomic := Committer.atomic_commit
  reveal_steady manner id := by
    cases manner with
    | opening => exact Committer.steady_decommit id
    | proof => exact Committer.steady_prove id
  forget_holding _ _ := rfl

end Pedersen

namespace Hashed

namespace Committer

theorem steady_noteSession (message : String) (id : SessionId) :
    (noteSession message id).Steady :=
  .state_bind fun _ => .of _

theorem atomic_commit (x : Bytes) (id : SessionId) : (commit x id).Atomic := by
  refine .state_bind fun committer => .ite (Action.Steady.of _).atomic ?_
  refine .bind (.of _) fun r => .bind (.of _) fun _ => ?_
  exact .bind (steady_noteSession _ id) fun _ => .put _

theorem run_commit_open {committer : Committer} {id : SessionId} (x : Bytes)
    (hopen : (committer.sessions.find? id).isSome = true) :
    (commit x id).run committer =
      .done (.error (.input (.sessionInUse id)), committer) := by
  unfold commit
  rw [Action.run_state_bind, if_pos hopen]
  rfl

theorem steady_decommit (id : SessionId) : (decommit id).Steady := by
  refine .state_bind fun committer => ?_
  split
  · exact (Action.Steady.of _).bind fun _ => steady_noteSession _ id
  · exact .of _

theorem close_holding (hash : Shake) (span : Option String) (T : Table Bytes Bytes Bytes)
    (id : SessionId) :
    CommitterRole.close id (⟨hash, span, T⟩ : Committer) =
      ⟨T.find? id, hash, span, T.erase id⟩ := rfl

end Committer

/-- The records of a committer. -/
def bookkeeping (hash : Shake) (span : Option String) : Bookkeeping scheme Bytes where
  holding T := ⟨hash, span, T⟩
  record? committer := committer.sessions.find?
  frame id c := Wire.write (CommitmentMessage.mk id c)
  Opens id record := record.commitment = digest hash id record.randomness record.value
  record?_holding _ _ := rfl
  commit_open x hopen := Committer.run_commit_open x hopen
  commit_new {T id} x e hnew := by
    refine (Committer.atomic_commit x id).ensures ?_
    rw [Committer.runIn_commit _ _ _ hnew]
    refine .bytes (.send (fun _ => .note (.pure ?_)) ?_)
    · exact fun _ => ⟨⟨x, _, _⟩, rfl, rfl, rfl, rfl⟩
    · exact fun _ => nofun
  commit_atomic := Committer.atomic_commit
  reveal_steady _ id := Committer.steady_decommit id
  forget_holding T id := congrArg Closed.role (Committer.close_holding hash span T id)

end Hashed

/-! ## After any calls -/

/-- A committer has records for exactly the sessions whose last commit was not followed by a close.
Each opens the commitment that was sent for it; a commit under an open session is refused at once;
and what fails, what reveals a value and what is for another session changes no record. -/
theorem records_kept :
    (∀ (G : CyclicGroup) (role : SigmaRole G) (key : Pedersen.Key G)
      (calls : List (Call (Operation G.Scalar Manner) Unit (Pedersen.Committer G)))
      (committer : Pedersen.Committer G),
      Calls (Pedersen.scheme G).perform { role, key } calls committer →
      Kept (Pedersen.scheme G) (fun committer => committer.sessions.find?)
        (fun id c => Wire.write (Pedersen.CommitmentMessage.mk id (G.encode c)))
        (fun _ record => record.commitment =
          G.multiply (G.exponentiate key.g record.randomness) (G.exponentiate key.h record.value))
        calls committer) ∧
    ∀ (hash : Shake) (span : Option String)
      (calls : List (Call (Operation Bytes Unit) Unit Hashed.Committer))
      (committer : Hashed.Committer),
      Calls Hashed.scheme.perform { hash, span } calls committer →
      Kept Hashed.scheme (fun committer => committer.sessions.find?)
        (fun id c => Wire.write (Hashed.CommitmentMessage.mk id c))
        (fun id record =>
          record.commitment = Hashed.digest hash id record.randomness record.value)
        calls committer :=
  ⟨fun _ role key _ _ h => (Pedersen.bookkeeping role key).kept h,
    fun hash span _ _ h => (Hashed.bookkeeping hash span).kept h⟩

/-- An endpoint whose line is up or down. -/
def atLine (up : Bool) : Endpoint :=
  ⟨.constant 1, [], fun _ => up⟩

open CyclicGroup in
/-- Session one is opened, opened again in vain, revealed, proven in vain, closed and opened again;
the commit of session two is not taken. -/
theorem records_kept_order281 :
    ∃ calls committer,
      Calls (Pedersen.scheme Residues.order281.group).perform
        { role := .order281, key := Pedersen.keyOf (scalar _ 2) } calls committer ∧
      calls.map (fun call => (call.op, call.outcome.result.1)) =
        [(.commit (scalar _ 5) 1, .ok ()),
          (.commit (scalar _ 6) 1, .error (.input (.sessionInUse 1))),
          (.reveal .opening 1, .ok ()), (.reveal .proof 1, .error (.channel .closed)),
          (.commit (scalar _ 6) 2, .error (.channel .closed)),
          (.close 1, .ok ()), (.commit (scalar _ 7) 1, .ok ())] ∧
      (∃ call, Standing 1 calls call) ∧ (¬ ∃ call, Standing 2 calls call) ∧
      (Pedersen.Committer.commit (scalar _ 8) 1).run committer =
        .done (.error (.input (.sessionInUse 1)), committer) := by
  have h0 : Calls (Pedersen.scheme Residues.order281.group).perform
      { role := .order281, key := Pedersen.keyOf (scalar _ 2) } [] _ := .nil
  have h1 := h0.snoc (.commit (scalar _ 5) 1) (atLine true) rfl
  have h2 := h1.snoc (.commit (scalar _ 6) 1) (atLine true) rfl
  have h3 := h2.snoc (.reveal .opening 1) (atLine true) rfl
  have h4 := h3.snoc (.reveal .proof 1) (atLine false) rfl
  have h5 := h4.snoc (.commit (scalar _ 6) 2) (atLine false) rfl
  have h6 := h5.snoc (.close 1) (atLine true) rfl
  have h7 := h6.snoc (.commit (scalar _ 7) 1) (atLine true) rfl
  obtain ⟨hpedersen, -⟩ := records_kept
  have hkept := hpedersen _ _ _ _ _ h7
  refine ⟨_, _, h7, rfl, (hkept.isSome_iff 1).1 rfl, ?_, hkept.refuses _ 1 rfl⟩
  rw [← hkept.isSome_iff 2]
  exact nofun

end TwoParty
