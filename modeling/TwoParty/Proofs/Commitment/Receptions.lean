/-
What a receiver holds against any committer. Over any calls of its operations and any frames that
come in, the commitment of a session comes with a frame that carries it, goes when the session is
closed, and is never replaced. So all the values that are accepted for a session while it is open
are openings of one commitment, the one with which it was opened.
-/
import TwoParty.Proofs.Action
import TwoParty.Proofs.Commitment.Agreement
import TwoParty.Proofs.Commitment.Openings

namespace TwoParty

/-! ## Calls of a receiver -/

/-- An operation of the receiver. -/
inductive Reception (Manner : Type) where
  | commitment
  | accept (manner : Manner) (id : SessionId)
  | close (id : SessionId)

section Receptions

variable {ρ σ Value Commitment Manner : Type}

/-- Does an operation of the receiver. -/
def Scheme.receive (𝒮 : Scheme ρ σ Value Commitment Manner) :
    Reception Manner → Action σ (Reply Value)
  | .commitment => Reply.session <$> 𝒮.receiveCommitment
  | .accept manner id => Reply.value <$> 𝒮.accept manner id
  | .close id => do
    Action.put (𝒮.forgetReceived id (← Action.state))
    return .closed

/-- What frames say in a scheme. -/
structure Contents (Value Commitment Manner : Type) where
  /-- The frame is a commitment message of the session. -/
  Names : Option Bytes → SessionId → Prop
  /-- The frame carries the commitment for the session. -/
  Carries : Option Bytes → SessionId → Commitment → Prop
  /-- The manner in which a value is revealed with its randomness. -/
  opening : Manner
  /-- The frame opens the commitment of the session to the value. -/
  Opens : Option Bytes → SessionId → Commitment → Value → Prop

/-- From the state of the receiver, the commitment of a session appears only with a frame that
carries it, disappears only when the session is closed, and never changes. -/
structure Guarded (𝒮 : Scheme ρ σ Value Commitment Manner)
    (contents : Contents Value Commitment Manner) (receiver : σ) : Prop where
  appears (op : Reception Manner) (e : Endpoint)
    (o : Outcome (Except ProtocolError (Reply Value) × σ)) (id : SessionId) (c : Commitment) :
    ((𝒮.receive op).run receiver).run e = some o → 𝒮.received? receiver id = none →
      𝒮.received? o.result.2 id = some c →
        op = .commitment ∧ o.result.1 = .ok (.session id) ∧ contents.Carries e.inbox.head? id c
  disappears (op : Reception Manner) (e : Endpoint)
    (o : Outcome (Except ProtocolError (Reply Value) × σ)) (id : SessionId) (c : Commitment) :
    ((𝒮.receive op).run receiver).run e = some o → 𝒮.received? receiver id = some c →
      𝒮.received? o.result.2 id = none → op = .close id
  stays (op : Reception Manner) (e : Endpoint)
    (o : Outcome (Except ProtocolError (Reply Value) × σ)) (id : SessionId) (c c' : Commitment) :
    ((𝒮.receive op).run receiver).run e = some o → 𝒮.received? receiver id = some c →
      𝒮.received? o.result.2 id = some c' → c' = c
  /-- A second commitment for an open session is cheating, and nothing changes. -/
  again (e : Endpoint) (o : Outcome (Except ProtocolError SessionId × σ)) (id : SessionId)
    (c : Commitment) :
    (𝒮.receiveCommitment.run receiver).run e = some o → 𝒮.received? receiver id = some c →
      contents.Names e.inbox.head? id → ∃ cause, o.result = (.error (.cheating cause), receiver) ∧
        ∀ c', contents.Carries e.inbox.head? id c' → cause = .duplicateCommitment id
  accepts (manner : Manner) (id : SessionId) (e : Endpoint)
    (o : Outcome (Except ProtocolError Value × σ)) :
    ((𝒮.accept manner id).run receiver).run e = some o → o.result.2 = receiver
  /-- Nothing is received for an unknown session. -/
  unknown (manner : Manner) (id : SessionId) : 𝒮.received? receiver id = none →
    (𝒮.accept manner id).run receiver = .done (.error (.input (.unknownSession id)), receiver)

/-- The values that are accepted for a session between the call that opened it and the next that
closes it are openings of one commitment, which came with the first call. -/
def Committed (contents : Contents Value Commitment Manner)
    (calls : List (Call (Reception Manner) (Reply Value) σ)) : Prop :=
  ∀ before acceptance during after id, calls = before ++ acceptance :: (during ++ after) →
    acceptance.op = .commitment → acceptance.outcome.result.1 = .ok (.session id) →
    (∀ call ∈ during, call.op ≠ .close id) →
    ∃ c, contents.Carries acceptance.start.inbox.head? id c ∧
      ∀ call ∈ during, ∀ x, call.op = .accept contents.opening id →
        call.outcome.result.1 = .ok (.value x) →
          contents.Opens call.start.inbox.head? id c x

/-- How the operations of a receiver act on the commitments it holds. -/
structure Admissions (𝒮 : Scheme ρ σ Value Commitment Manner)
    (contents : Contents Value Commitment Manner) where
  holding : Sessions Commitment → σ
  received?_holding (T : Sessions Commitment) (id : SessionId) :
    𝒮.received? (holding T) id = T.find? id
  /-- A commitment that is received is new to its session, and is kept. -/
  receive (T : Sessions Commitment) (e : Endpoint) :
    (𝒮.receiveCommitment.run (holding T)).Ensures e True fun o => ∀ id, o.result.1 = .ok id →
      ∃ c, T.find? id = none ∧ contents.Carries e.inbox.head? id c ∧
        o.result.2 = holding (T.insert id c)
  receive_atomic : 𝒮.receiveCommitment.Atomic
  receive_again {T : Sessions Commitment} {id : SessionId} {c : Commitment} {e : Endpoint} :
    T.find? id = some c → contents.Names e.inbox.head? id →
      (𝒮.receiveCommitment.run (holding T)).Ensures e True fun o =>
        ∃ cause, o.result = (.error (.cheating cause), holding T) ∧
          ∀ c', contents.Carries e.inbox.head? id c' → cause = .duplicateCommitment id
  accept_steady (manner : Manner) (id : SessionId) : (𝒮.accept manner id).Steady
  accept_unknown {T : Sessions Commitment} {id : SessionId} (manner : Manner) :
    T.find? id = none → (𝒮.accept manner id).run (holding T) =
      .done (.error (.input (.unknownSession id)), holding T)
  accept_opens {T : Sessions Commitment} {id : SessionId} {c : Commitment} (e : Endpoint) :
    T.find? id = some c →
      ((𝒮.accept contents.opening id).run (holding T)).Ensures e True fun o =>
        ∀ x, o.result.1 = .ok x → contents.Opens e.inbox.head? id c x
  forget_holding (T : Sessions Commitment) (id : SessionId) :
    𝒮.forgetReceived id (holding T) = holding (T.erase id)

/-! ## One call and many -/

namespace Admissions

variable {𝒮 : Scheme ρ σ Value Commitment Manner} {contents : Contents Value Commitment Manner}
  (κ : Admissions 𝒮 contents) {T : Sessions Commitment}

/-- The ways an operation can go. -/
theorem receive_cases {op : Reception Manner} {e : Endpoint}
    {o : Outcome (Except ProtocolError (Reply Value) × σ)}
    (hrun : ((𝒮.receive op).run (κ.holding T)).run e = some o) :
    (∃ id c, op = .commitment ∧ T.find? id = none ∧ contents.Carries e.inbox.head? id c ∧
      o.result = (.ok (.session id), κ.holding (T.insert id c))) ∨
    (∃ id, op = .close id ∧ o.result = (.ok .closed, κ.holding (T.erase id))) ∨
    (o.result.2 = κ.holding T ∧ ∀ id, o.result.1 ≠ .ok (.session id)) := by
  cases op with
  | commitment =>
    obtain ⟨o', ho', hresult⟩ := Action.outcome_of_map hrun
    rw [hresult]
    rcases hreceived : o'.result.1 with error | id
    · exact .inr (.inr ⟨κ.receive_atomic.keeps ho' hreceived, nofun⟩)
    · obtain ⟨c, hnew, hcarries, ho⟩ := (κ.receive T e).outcome ho' id hreceived
      exact .inl ⟨id, c, rfl, hnew, hcarries, by rw [ho]; rfl⟩
  | accept manner id =>
    obtain ⟨o', ho', hresult⟩ := Action.outcome_of_map hrun
    rw [hresult]
    refine .inr (.inr ⟨(κ.accept_steady manner id).keeps ho', fun id => ?_⟩)
    rcases o'.result.1 with error | x
    · exact nofun
    · exact nofun
  | close id =>
    cases hrun
    exact .inr (.inl ⟨id, rfl, by rw [← κ.forget_holding]⟩)

/-- What can happen to a session. -/
theorem session_cases {op : Reception Manner} {e : Endpoint}
    {o : Outcome (Except ProtocolError (Reply Value) × σ)}
    (hrun : ((𝒮.receive op).run (κ.holding T)).run e = some o) (id : SessionId) :
    𝒮.received? o.result.2 id = 𝒮.received? (κ.holding T) id ∨
    (op = .close id ∧ 𝒮.received? o.result.2 id = none) ∨
    (𝒮.received? (κ.holding T) id = none ∧ op = .commitment ∧
      o.result.1 = .ok (.session id) ∧
      ∃ c, contents.Carries e.inbox.head? id c ∧ 𝒮.received? o.result.2 id = some c) := by
  simp only [κ.received?_holding]
  rcases κ.receive_cases hrun with ⟨id', c, rfl, hnew, hcarries, ho⟩ | ⟨id', rfl, ho⟩ | ⟨ho, -⟩
  · rw [ho, κ.received?_holding, Sessions.find?_insert]
    split
    · rename_i heq
      cases heq
      exact .inr (.inr ⟨hnew, rfl, rfl, c, hcarries, rfl⟩)
    · exact .inl rfl
  · rw [ho, κ.received?_holding, Sessions.find?_erase]
    split
    · rename_i heq
      exact .inr (.inl ⟨by rw [heq], rfl⟩)
    · exact .inl rfl
  · rw [ho, κ.received?_holding]
    exact .inl rfl

theorem guarded (T : Sessions Commitment) : Guarded 𝒮 contents (κ.holding T) := by
  constructor
  case appears =>
    intro op e o id c hrun hnone hsome
    rcases κ.session_cases hrun id with hsame | ⟨-, hclosed⟩ | ⟨-, hop, hok, c', hcarries, hc'⟩
    · cases hnone.symm.trans (hsame.symm.trans hsome)
    · cases hclosed.symm.trans hsome
    · cases hc'.symm.trans hsome
      exact ⟨hop, hok, hcarries⟩
  case disappears =>
    intro op e o id c hrun hsome hnone
    rcases κ.session_cases hrun id with hsame | ⟨hop, -⟩ | ⟨hnew, -⟩
    · cases hnone.symm.trans (hsame.trans hsome)
    · exact hop
    · cases hnew.symm.trans hsome
  case stays =>
    intro op e o id c c' hrun hsome hsome'
    rcases κ.session_cases hrun id with hsame | ⟨-, hclosed⟩ | ⟨hnew, -⟩
    · cases hsome'.symm.trans (hsame.trans hsome)
      rfl
    · cases hclosed.symm.trans hsome'
    · cases hnew.symm.trans hsome
  case again =>
    intro e o id c hrun hsome hnames
    rw [κ.received?_holding] at hsome
    exact (κ.receive_again hsome hnames).outcome hrun
  case accepts =>
    intro manner id e o hrun
    exact (κ.accept_steady manner id).keeps hrun
  case unknown =>
    intro manner id hnone
    rw [κ.received?_holding] at hnone
    exact κ.accept_unknown manner hnone

variable {κ} {calls : List (Call (Reception Manner) (Reply Value) σ)} {receiver : σ}

theorem exists_holding (h : Calls 𝒮.receive (κ.holding T) calls receiver) :
    ∃ T', receiver = κ.holding T' := by
  induction h with
  | nil => exact ⟨T, rfl⟩
  | snoc _ op e hrun ih =>
    obtain ⟨T', rfl⟩ := ih
    rcases κ.receive_cases hrun with ⟨_, _, -, -, -, ho⟩ | ⟨_, -, ho⟩ | ⟨ho, -⟩
    · exact ⟨_, by rw [ho]⟩
    · exact ⟨_, by rw [ho]⟩
    · exact ⟨_, ho⟩

/-- An opening that is accepted opens the commitment that is held. -/
theorem opens_of_accepted {op : Reception Manner} {e : Endpoint} {id : SessionId} {c : Commitment}
    {x : Value} {o : Outcome (Except ProtocolError (Reply Value) × σ)}
    (hfind : T.find? id = some c) (hop : op = .accept contents.opening id)
    (hrun : ((𝒮.receive op).run (κ.holding T)).run e = some o)
    (ho : o.result.1 = .ok (.value x)) : contents.Opens e.inbox.head? id c x := by
  subst hop
  obtain ⟨o', ho', hresult⟩ := Action.outcome_of_map hrun
  refine (κ.accept_opens e hfind).outcome ho' x ?_
  rw [hresult] at ho
  rcases hvalue : o'.result.1 with error | y
  · rw [hvalue] at ho; cases ho
  · rw [hvalue] at ho; cases ho; rfl

/-- While a session is not closed, its commitment stays, and what is accepted opens it. -/
theorem stays {id : SessionId} {c : Commitment} (hfind : T.find? id = some c)
    (h : Calls 𝒮.receive (κ.holding T) calls receiver)
    (hopen : ∀ call ∈ calls, call.op ≠ .close id) :
    𝒮.received? receiver id = some c ∧
      ∀ call ∈ calls, ∀ x, call.op = .accept contents.opening id →
        call.outcome.result.1 = .ok (.value x) →
          contents.Opens call.start.inbox.head? id c x := by
  induction h with
  | nil => exact ⟨by rw [κ.received?_holding, hfind], nofun⟩
  | @snoc earlier r h op e o hrun ih =>
    obtain ⟨hstays, hopens⟩ := ih fun call hcall => hopen call (by simp [hcall])
    obtain ⟨T', rfl⟩ := exists_holding h
    constructor
    · rcases κ.session_cases hrun id with hsame | ⟨hop, -⟩ | ⟨hnew, -⟩
      · exact hsame.trans hstays
      · exact absurd hop (hopen ⟨op, e, o⟩ (by simp))
      · cases hnew.symm.trans hstays
    · intro call hcall x hop hvalue
      rcases List.mem_append.1 hcall with hearlier | hlast
      · exact hopens call hearlier x hop hvalue
      · cases List.mem_singleton.1 hlast
        rw [κ.received?_holding] at hstays
        exact opens_of_accepted hstays hop hrun hvalue

theorem committed (h : Calls 𝒮.receive (κ.holding T) calls receiver) :
    Committed contents calls := by
  rintro before acceptance during after id rfl hop hok hopen
  obtain ⟨r, hbefore, hrest⟩ := Calls.append_iff.1 h
  obtain ⟨T', rfl⟩ := exists_holding hbefore
  obtain ⟨hrun, hrest⟩ := Calls.cons_iff.1 hrest
  obtain ⟨_, hduring, -⟩ := Calls.append_iff.1 hrest
  rcases κ.receive_cases hrun with ⟨id', c, -, -, hcarries, ho⟩ | ⟨_, -, ho⟩ | ⟨-, hno⟩
  · rw [ho] at hok hduring
    cases hok
    have hfind : (T'.insert id c).find? id = some c := by
      rw [Sessions.find?_insert, if_pos rfl]
    exact ⟨c, hcarries, (stays hfind hduring hopen).2⟩
  · rw [ho] at hok
    cases hok
  · exact absurd hok (hno id)

end Admissions

end Receptions

/-! ## The schemes -/

namespace Pedersen

open CyclicGroup

variable {G : CyclicGroup}

/-- The session and the commitment, a member of the group, that a commitment message writes. -/
def CommitmentMessage.Writes (message : CommitmentMessage) (commitment : SessionId × G.Element) :
    Prop :=
  message.id = commitment.1 ∧ G.Describes message.c commitment.2

def contents (key : Key G) : Contents G.Scalar G.Element Manner where
  Names := Conveys fun (message : CommitmentMessage) id => message.id = id
  Carries frame? id c := Conveys CommitmentMessage.Writes frame? (id, c)
  opening := .opening
  Opens frame? id c x :=
    ∃ r, Conveys OpeningMessage.Writes frame? (id, x, r) ∧ key.commitment x r = c

namespace Receiver

theorem steady_noteSession (message : String) (id : SessionId) :
    (noteSession message id : Action (Receiver G) Unit).Steady :=
  .state_bind fun _ => .of _

theorem steady_judge {α : Type} (check : Except Cheating α) :
    (judge check : Action (Receiver G) α).Steady :=
  .state_bind fun _ => .of _

theorem steady_openCommitment (id : SessionId) :
    (openCommitment id : Action (Receiver G) _).Steady := by
  refine .state_bind fun receiver => ?_
  split
  · exact .pure _
  · exact .of _

theorem atomic_receiveCommitment : (receiveCommitment : Action (Receiver G) _).Atomic := by
  refine .bind (.of _) fun message => .bind (steady_judge _) fun c => .state_bind fun _ => ?_
  exact .ite (steady_judge _).atomic (.put_bind fun r => ⟨.note _ (.done message.id), rfl⟩)

theorem steady_receiveOpening (id : SessionId) :
    (receiveOpening id : Action (Receiver G) _).Steady := by
  refine (steady_openCommitment id).bind fun c => (Action.Steady.of _).bind fun message => ?_
  refine (steady_judge _).bind fun _ => (steady_judge _).bind fun x => ?_
  refine (steady_judge _).bind fun r => .state_bind fun receiver => .ite ?_ (steady_judge _)
  exact (steady_noteSession _ id).bind fun _ => .pure _

theorem steady_verifyValue (id : SessionId) :
    (verifyValue id : Action (Receiver G) _).Steady := by
  refine (steady_openCommitment id).bind fun c => (Action.Steady.of _).bind fun message => ?_
  refine (steady_judge _).bind fun _ => (steady_judge _).bind fun x => .state_bind fun _ => ?_
  refine (Action.Steady.of _).bind fun proven => .ite ?_ (steady_judge _)
  exact (steady_noteSession _ id).bind fun _ => .pure _

variable {receiver : Receiver G} {id : SessionId} {e : Endpoint}

theorem heard_commitment_iff {frame? : Option Bytes} {c : G.Element} :
    Attempt.heard receiver.checkCommitment frame? = .ok (id, c) ↔
      Conveys CommitmentMessage.Writes frame? (id, c) ∧
        receiver.commitments.find? id = none := by
  rw [Attempt.heard_eq_ok_iff fun message p => checkCommitment_eq_ok_iff receiver p.1]
  constructor
  · rintro ⟨frame, message, hframe, hread, hid, hc, hnew⟩
    exact ⟨⟨frame, message, hframe, hread, hid, hc⟩, hnew⟩
  · rintro ⟨⟨frame, message, hframe, hread, hid, hc⟩, hnew⟩
    exact ⟨frame, message, hframe, hread, hid, hc, hnew⟩

theorem ensures_receiveCommitment :
    (receiveCommitment.run receiver).Ensures e True fun o => ∀ id, o.result.1 = .ok id →
      ∃ c, receiver.commitments.find? id = none ∧
        Conveys CommitmentMessage.Writes e.inbox.head? (id, c) ∧
        o.result.2 = receiver.opened id c := by
  refine atomic_receiveCommitment.ensures ?_
  rw [receiveCommitment_eq]
  refine .hear rfl (fun error _ => nofun) (fun ⟨id, c⟩ hheard => .note (.pure ?_))
  rintro _ ⟨⟩
  obtain ⟨hconveys, hnew⟩ := heard_commitment_iff.1 hheard
  exact ⟨c, hnew, hconveys, rfl⟩

theorem ensures_receiveCommitment_again {c : G.Element}
    (hfind : receiver.commitments.find? id = some c)
    (hnames : Conveys (fun (message : CommitmentMessage) id => message.id = id)
      e.inbox.head? id) :
    (receiveCommitment.run receiver).Ensures e True fun o =>
      ∃ cause, o.result = (.error (.cheating cause), receiver) ∧
        ∀ c' : G.Element, Conveys CommitmentMessage.Writes e.inbox.head? (id, c') →
          cause = .duplicateCommitment id := by
  obtain ⟨frame, message, hframe, hread, hid⟩ := hnames
  subst hid
  refine atomic_receiveCommitment.ensures ?_
  rw [receiveCommitment_eq]
  refine .hear hframe (fun error herror => ?_) (fun ⟨id, c'⟩ hheard => ?_)
  · rw [Attempt.heard_eq rfl hread, mapError_eq_error_iff] at herror
    obtain ⟨cause, hcheck, rfl⟩ := herror
    refine ⟨cause, rfl, ?_⟩
    rintro c' ⟨frame', message', hframe', hread', -, hc'⟩
    cases hframe.symm.trans hframe'
    cases hread.symm.trans hread'
    unfold checkCommitment at hcheck
    rw [decodeMember_eq_ok_iff.2 hc', hfind] at hcheck
    cases hcheck
    rfl
  · rw [Attempt.heard_eq rfl hread, mapError_eq_ok_iff] at hheard
    obtain ⟨rfl, -, hnew⟩ := (checkCommitment_eq_ok_iff receiver id).1 hheard
    cases hnew.symm.trans hfind

theorem ensures_receiveOpening {c : G.Element} (hfind : receiver.commitments.find? id = some c) :
    ((receiveOpening id).run receiver).Ensures e True fun o => ∀ x, o.result.1 = .ok x →
      ∃ r, Conveys OpeningMessage.Writes e.inbox.head? (id, x, r) ∧
        receiver.key.commitment x r = c := by
  refine (steady_receiveOpening id).atomic.ensures ?_
  rw [receiveOpening_eq receiver id hfind]
  refine .hear rfl (fun error _ => nofun) (fun x hheard => .note (.pure ?_))
  rintro _ ⟨⟩
  obtain ⟨frame, message, hframe, hread, r, hwrites, hc⟩ :=
    (Attempt.heard_eq_ok_iff fun _ _ => Key.checkOpening_eq_ok_iff).1 hheard
  exact ⟨r, ⟨frame, message, hframe, hread, hwrites⟩, hc⟩

theorem run_openCommitment_none (receiver : Receiver G) (id : SessionId)
    (hfind : receiver.commitments.find? id = none) :
    (openCommitment id).run receiver =
      .done (.error (.input (.unknownSession id)), receiver) := by
  unfold openCommitment
  rw [Action.run_state_bind, hfind]
  rfl

theorem run_receiveOpening_none (receiver : Receiver G) (id : SessionId)
    (hfind : receiver.commitments.find? id = none) :
    (receiveOpening id).run receiver =
      .done (.error (.input (.unknownSession id)), receiver) := by
  unfold receiveOpening
  rw [Action.run_bind, run_openCommitment_none receiver id hfind]
  rfl

theorem run_verifyValue_none (receiver : Receiver G) (id : SessionId)
    (hfind : receiver.commitments.find? id = none) :
    (verifyValue id).run receiver =
      .done (.error (.input (.unknownSession id)), receiver) := by
  unfold verifyValue
  rw [Action.run_bind, run_openCommitment_none receiver id hfind]
  rfl

end Receiver

/-- The commitments of a receiver. -/
def admissions (role : SigmaRole G) (key : Key G) (trapdoor : G.Scalar) :
    Admissions (scheme G) (contents key) where
  holding T := ⟨role, key, trapdoor, T⟩
  received?_holding _ _ := rfl
  receive _ _ := Receiver.ensures_receiveCommitment
  receive_atomic := Receiver.atomic_receiveCommitment
  receive_again hfind hnames := Receiver.ensures_receiveCommitment_again hfind hnames
  accept_steady manner id := by
    cases manner with
    | opening => exact Receiver.steady_receiveOpening id
    | proof => exact Receiver.steady_verifyValue id
  accept_unknown manner hfind := by
    cases manner with
    | opening => exact Receiver.run_receiveOpening_none _ _ hfind
    | proof => exact Receiver.run_verifyValue_none _ _ hfind
  accept_opens _ hfind := Receiver.ensures_receiveOpening hfind
  forget_holding _ _ := rfl

end Pedersen

namespace Hashed

/-- The session and the commitment that a commitment message writes. -/
def CommitmentMessage.Writes (message : CommitmentMessage) (commitment : SessionId × Bytes) :
    Prop :=
  (message.id, message.c) = commitment

def contents (hash : Shake) : Contents Bytes Bytes Unit where
  Names := Conveys fun (message : CommitmentMessage) id => message.id = id
  Carries frame? id c := Conveys CommitmentMessage.Writes frame? (id, c)
  opening := ()
  Opens frame? id c x :=
    ∃ r, Conveys OpeningMessage.Writes frame? (id, r, x) ∧ digest hash id r x = c

namespace Receiver

theorem steady_noteSession (message : String) (id : SessionId) :
    (noteSession message id).Steady :=
  .state_bind fun _ => .of _

theorem steady_accuse {α : Type} (cause : Cheating) : (accuse cause : Action Receiver α).Steady :=
  .state_bind fun _ => .of _

theorem atomic_receiveCommitment : receiveCommitment.Atomic := by
  refine .bind (.of _) fun message => .state_bind fun _ => .ite (steady_accuse _).atomic ?_
  exact .put_bind fun r => ⟨.note _ (.done message.id), rfl⟩

theorem steady_receiveOpening (id : SessionId) : (receiveOpening id).Steady := by
  refine .state_bind fun receiver => ?_
  split
  · refine (Action.Steady.of _).bind fun message => .ite (.ite ?_ ?_) (steady_accuse _)
    · exact (steady_noteSession _ id).bind fun _ => .pure _
    · exact steady_accuse _
  · exact .of _

variable {receiver : Receiver} {id : SessionId} {e : Endpoint}

theorem checkCommitment_eq_ok_iff {message : CommitmentMessage} {c : Bytes} :
    receiver.checkCommitment message = .ok (id, c) ↔
      message.Writes (id, c) ∧ receiver.commitments.find? id = none := by
  unfold checkCommitment CommitmentMessage.Writes
  split
  · rename_i hopen
    refine iff_of_false nofun ?_
    rintro ⟨⟨⟩, hnew⟩
    rw [hnew] at hopen
    cases hopen
  · rename_i hnew
    constructor
    · rintro ⟨⟩
      exact ⟨rfl, by simpa using hnew⟩
    · rintro ⟨⟨⟩, -⟩
      rfl

theorem ensures_receiveCommitment :
    (receiveCommitment.run receiver).Ensures e True fun o => ∀ id, o.result.1 = .ok id →
      ∃ c, receiver.commitments.find? id = none ∧
        Conveys CommitmentMessage.Writes e.inbox.head? (id, c) ∧
        o.result.2 = receiver.opened id c := by
  refine atomic_receiveCommitment.ensures ?_
  rw [receiveCommitment_eq]
  refine .hear rfl (fun error _ => nofun) (fun ⟨id, c⟩ hheard => .note (.pure ?_))
  rintro _ ⟨⟩
  obtain ⟨frame, message, hframe, hread, hwrites, hnew⟩ :=
    (Attempt.heard_eq_ok_iff fun _ p => checkCommitment_eq_ok_iff).1 hheard
  exact ⟨c, hnew, ⟨frame, message, hframe, hread, hwrites⟩, rfl⟩

theorem ensures_receiveCommitment_again {c : Bytes}
    (hfind : receiver.commitments.find? id = some c)
    (hnames : Conveys (fun (message : CommitmentMessage) id => message.id = id)
      e.inbox.head? id) :
    (receiveCommitment.run receiver).Ensures e True fun o =>
      o.result = (.error (.cheating (.duplicateCommitment id)), receiver) := by
  obtain ⟨frame, message, hframe, hread, hid⟩ := hnames
  subst hid
  have hcheck : receiver.checkCommitment message = .error (.duplicateCommitment message.id) := by
    unfold checkCommitment
    rw [hfind]
    rfl
  refine atomic_receiveCommitment.ensures ?_
  rw [receiveCommitment_eq]
  refine .hear hframe (fun error herror => ?_) (fun p hheard => ?_)
  · rw [Attempt.heard_eq rfl hread, hcheck] at herror
    cases herror
    rfl
  · rw [Attempt.heard_eq rfl hread, hcheck] at hheard
    cases hheard

theorem ensures_receiveOpening {c : Bytes} (hfind : receiver.commitments.find? id = some c) :
    ((receiveOpening id).run receiver).Ensures e True fun o => ∀ x, o.result.1 = .ok x →
      ∃ r, Conveys OpeningMessage.Writes e.inbox.head? (id, r, x) ∧
        digest receiver.hash id r x = c := by
  refine (steady_receiveOpening id).atomic.ensures ?_
  rw [receiveOpening_eq receiver id hfind]
  refine .hear rfl (fun error _ => nofun) (fun x hheard => .note (.pure ?_))
  rintro _ ⟨⟩
  obtain ⟨frame, message, hframe, hread, r, hwrites, hc⟩ :=
    (Attempt.heard_eq_ok_iff fun _ _ => checkOpening_eq_ok_iff).1 hheard
  exact ⟨r, ⟨frame, message, hframe, hread, hwrites⟩, hc⟩

theorem run_receiveOpening_none (hfind : receiver.commitments.find? id = none) :
    (receiveOpening id).run receiver =
      .done (.error (.input (.unknownSession id)), receiver) := by
  unfold receiveOpening
  rw [Action.run_state_bind, hfind]
  rfl

end Receiver

/-- The commitments of a receiver. -/
def admissions (hash : Shake) (span : Option String) : Admissions scheme (contents hash) where
  holding T := ⟨hash, span, T⟩
  received?_holding _ _ := rfl
  receive _ _ := Receiver.ensures_receiveCommitment
  receive_atomic := Receiver.atomic_receiveCommitment
  receive_again hfind hnames :=
    Program.Ensures.mono (Receiver.ensures_receiveCommitment_again hfind hnames) fun _ ho =>
      ⟨_, ho, fun _ _ => rfl⟩
  accept_steady _ id := Receiver.steady_receiveOpening id
  accept_unknown _ hfind := Receiver.run_receiveOpening_none hfind
  accept_opens _ hfind := Receiver.ensures_receiveOpening hfind
  forget_holding _ _ := rfl

end Hashed

/-! ## After any calls -/

/-- Whatever comes in, a commitment is held from the call that received it to the one that closes
its session, and all the values that are accepted meanwhile are openings of it. -/
theorem receptions_guarded :
    (∀ (G : CyclicGroup) (role : SigmaRole G) (key : Pedersen.Key G) (trapdoor : G.Scalar)
      (calls : List (Call (Reception Manner) (Reply G.Scalar) (Pedersen.Receiver G)))
      (receiver : Pedersen.Receiver G),
      Calls (Pedersen.scheme G).receive { role, key, trapdoor } calls receiver →
      Guarded (Pedersen.scheme G) (Pedersen.contents key) receiver ∧
        Committed (Pedersen.contents key) calls) ∧
    ∀ (hash : Shake) (span : Option String)
      (calls : List (Call (Reception Unit) (Reply Bytes) Hashed.Receiver))
      (receiver : Hashed.Receiver),
      Calls Hashed.scheme.receive { hash, span } calls receiver →
      Guarded Hashed.scheme (Hashed.contents hash) receiver ∧
        Committed (Hashed.contents hash) calls := by
  constructor
  · intro G role key trapdoor calls receiver h
    let κ := Pedersen.admissions role key trapdoor
    obtain ⟨T, rfl⟩ := κ.exists_holding (T := {}) h
    exact ⟨κ.guarded T, κ.committed (T := {}) h⟩
  · intro hash span calls receiver h
    let κ := Hashed.admissions hash span
    obtain ⟨T, rfl⟩ := κ.exists_holding (T := {}) h
    exact ⟨κ.guarded T, κ.committed (T := {}) h⟩

open CyclicGroup Pedersen in
/-- An endpoint at which the commitment to a value with the randomness three waits, for session one
and the key of the trapdoor two. -/
def atCommitment (x : Nat) : Endpoint :=
  (Endpoint.fresh (.constant 1)).deliver [Wire.write (CommitmentMessage.mk 1
    (Residues.order281.group.encode ((keyOf (scalar _ 2)).commitment (scalar _ x) (scalar _ 3))))]

open CyclicGroup in
/-- An endpoint at which the opening of session one to a value with the randomness three waits. -/
def atOpening (x : Nat) : Endpoint :=
  (Endpoint.fresh (.constant 1)).deliver [Wire.write (Pedersen.OpeningMessage.mk 1
    (encodeScalar Residues.order281.group (scalar _ x))
    (encodeScalar Residues.order281.group (scalar _ 3)))]

open CyclicGroup in
/-- A commitment to five is received, a second one to six is not, and the opening to five is
accepted twice; the opening to six is not, nor anything for a closed session. -/
theorem receptions_guarded_order281 :
    ∃ calls receiver,
      Calls (Pedersen.scheme Residues.order281.group).receive
        { role := .order281, key := Pedersen.keyOf (scalar _ 2), trapdoor := scalar _ 2 } calls
        receiver ∧
      calls.map (fun call => (call.op, call.outcome.result.1)) =
        [(.commitment, .ok (.session 1)),
          (.commitment, .error (.cheating (.duplicateCommitment 1))),
          (.accept .opening 1, .ok (.value (scalar _ 5))),
          (.accept .opening 1, .error (.cheating (.openingMismatch 1))),
          (.accept .opening 1, .ok (.value (scalar _ 5))), (.close 1, .ok .closed),
          (.accept .opening 1, .error (.input (.unknownSession 1)))] ∧
      Guarded (Pedersen.scheme Residues.order281.group)
        (Pedersen.contents (Pedersen.keyOf (scalar _ 2))) receiver ∧
      ∃ c, (Pedersen.contents (Pedersen.keyOf (scalar _ 2))).Carries (atCommitment 5).inbox.head?
          1 c ∧
        (Pedersen.contents (Pedersen.keyOf (scalar _ 2))).Opens (atOpening 5).inbox.head? 1 c
          (scalar Residues.order281.group 5) := by
  have h0 : Calls (Pedersen.scheme Residues.order281.group).receive
      { role := .order281, key := Pedersen.keyOf (scalar _ 2), trapdoor := scalar _ 2 } [] _ :=
    .nil
  have h1 := h0.snoc .commitment (atCommitment 5) rfl
  have h2 := h1.snoc .commitment (atCommitment 6) rfl
  have h3 := h2.snoc (.accept .opening 1) (atOpening 5) rfl
  have h4 := h3.snoc (.accept .opening 1) (atOpening 6) rfl
  have h5 := h4.snoc (.accept .opening 1) (atOpening 5) rfl
  have h6 := h5.snoc (.close 1) (atOpening 5) rfl
  have h7 := h6.snoc (.accept .opening 1) (atOpening 5) rfl
  obtain ⟨hguarded, hcommitted⟩ := receptions_guarded.1 _ _ _ _ _ _ h7
  obtain ⟨c, hcarries, hopens⟩ :=
    hcommitted [] _ [_, _] _ 1 rfl rfl rfl (by simp)
  exact ⟨_, _, h7, rfl, hguarded, c, hcarries, hopens _ (.tail _ (.head _)) _ rfl rfl⟩

end TwoParty
