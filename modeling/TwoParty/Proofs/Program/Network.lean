/-
Two parties over two queues, in any interleaving. Each starts operations of its role when it likes
and goes on step by step, whatever the other is doing; frames arrive in the order in which they
were sent. Running an operation on one side, or one on either side at the same time, is one of the
ways in which the steps can go.
-/
import TwoParty.Program.Link
import TwoParty.Proofs.Program.Steps

namespace TwoParty

/-! ## Parties -/

/-- The operations of a party, and which of them it may start. -/
structure Role (Op Reply ρ : Type) where
  perform : Op → Action ρ Reply
  May : Op → Prop

/-- What a party is doing: nothing, or an operation of which some is left. -/
inductive Stage (Op Reply ρ : Type) where
  | idle (state : ρ)
  | busy (op : Op) (rest : Program (Except ProtocolError Reply × ρ))

/-- A party with the operations it has finished, in order. -/
structure Party (Op Reply ρ : Type) where
  stage : Stage Op Reply ρ
  finished : List (Op × Except ProtocolError Reply) := []

/-- One step of a party, which changes what waits for it and what it has sent: it starts any
operation that it may, goes on with it, and ends with its result. -/
inductive Party.Step {Op Reply ρ : Type} (role : Role Op Reply ρ) :
    (party : Party Op Reply ρ) → (inbox outbox : List Bytes) →
    (party' : Party Op Reply ρ) → (inbox' outbox' : List Bytes) → Prop where
  | start {r : ρ} {finished : List (Op × Except ProtocolError Reply)} {inbox outbox : List Bytes}
    (op : Op) (hmay : role.May op) :
    Step role ⟨.idle r, finished⟩ inbox outbox
      ⟨.busy op ((role.perform op).run r), finished⟩ inbox outbox
  | move {op : Op} {p p' : Program (Except ProtocolError Reply × ρ)}
    {finished : List (Op × Except ProtocolError Reply)} {inbox outbox inbox' outbox' : List Bytes}
    (h : Move ⟨p, inbox, outbox⟩ ⟨p', inbox', outbox'⟩) :
    Step role ⟨.busy op p, finished⟩ inbox outbox ⟨.busy op p', finished⟩ inbox' outbox'
  | finish {op : Op} {result : Except ProtocolError Reply} {r : ρ}
    {finished : List (Op × Except ProtocolError Reply)} {inbox outbox : List Bytes} :
    Step role ⟨.busy op (.done (result, r)), finished⟩ inbox outbox
      ⟨.idle r, finished ++ [(op, result)]⟩ inbox outbox

/-- Two parties with the frames that are under way between them. -/
structure Network (Op Reply ρ Op' Reply' σ : Type) where
  left : Party Op Reply ρ
  right : Party Op' Reply' σ
  toLeft : List Bytes := []
  toRight : List Bytes := []

namespace Network

variable {Op Reply ρ Op' Reply' σ : Type}

/-- One step of either party. What one sends waits for the other, in order. -/
inductive Step (role : Role Op Reply ρ) (role' : Role Op' Reply' σ) :
    Network Op Reply ρ Op' Reply' σ → Network Op Reply ρ Op' Reply' σ → Prop where
  | left {n : Network Op Reply ρ Op' Reply' σ} {left : Party Op Reply ρ}
    {toLeft toRight : List Bytes}
    (h : Party.Step role n.left n.toLeft n.toRight left toLeft toRight) :
    Step role role' n { n with left, toLeft, toRight }
  | right {n : Network Op Reply ρ Op' Reply' σ} {right : Party Op' Reply' σ}
    {toRight toLeft : List Bytes}
    (h : Party.Step role' n.right n.toRight n.toLeft right toRight toLeft) :
    Step role role' n { n with right, toLeft, toRight }

/-- The parties get from one point to another, by their steps in some order. -/
abbrev Reaches (role : Role Op Reply ρ) (role' : Role Op' Reply' σ) :
    Network Op Reply ρ Op' Reply' σ → Network Op Reply ρ Op' Reply' σ → Prop :=
  Relation.ReflTransGen (Step role role')

/-- Before anything is done. -/
def initial (r : ρ) (r' : σ) : Network Op Reply ρ Op' Reply' σ where
  left := ⟨.idle r, []⟩
  right := ⟨.idle r', []⟩

/-! ## Runs as steps -/

variable {role : Role Op Reply ρ} {role' : Role Op' Reply' σ} {op : Op} {op' : Op'}
  {left : Party Op Reply ρ} {right : Party Op' Reply' σ}
  {finished : List (Op × Except ProtocolError Reply)}
  {finished' : List (Op' × Except ProtocolError Reply')} {r : ρ} {r' : σ}

theorem reaches_of_moves_left {i i' : Position (Except ProtocolError Reply × ρ)}
    (h : Relation.ReflTransGen Move i i') :
    Reaches role role' ⟨⟨.busy op i.rest, finished⟩, right, i.inbox, i.outbox⟩
      ⟨⟨.busy op i'.rest, finished⟩, right, i'.inbox, i'.outbox⟩ := by
  induction h with
  | refl => exact .refl
  | tail _ hmove ih => exact ih.tail (.left (.move hmove))

theorem reaches_of_moves_right {i i' : Position (Except ProtocolError Reply' × σ)}
    (h : Relation.ReflTransGen Move i i') :
    Reaches role role' ⟨left, ⟨.busy op' i.rest, finished'⟩, i.outbox, i.inbox⟩
      ⟨left, ⟨.busy op' i'.rest, finished'⟩, i'.outbox, i'.inbox⟩ := by
  induction h with
  | refl => exact .refl
  | tail _ hmove ih => exact ih.tail (.right (.move hmove))

/-- The left party may run an operation while the other does nothing. -/
theorem Reaches.run_left {n : Network Op Reply ρ Op' Reply' σ} {toLeft toRight : List Bytes}
    (h : Reaches role role' n ⟨⟨.idle r, finished⟩, right, toLeft, toRight⟩) (op : Op)
    (hmay : role.May op) (source : Source) (line : Nat → Bool)
    {o : Outcome (Except ProtocolError Reply × ρ)}
    (hrun : ((role.perform op).run r).run ⟨source, toLeft, line⟩ = some o) :
    Reaches role role' n ⟨⟨.idle o.result.2, finished ++ [(op, o.result.1)]⟩, right,
      o.endpoint.inbox, toRight ++ o.sent⟩ :=
  ((h.tail (.left (.start op hmay))).trans
    (reaches_of_moves_left (moves_of_run hrun toRight))).tail (.left .finish)

/-- So may the right party. -/
theorem Reaches.run_right {n : Network Op Reply ρ Op' Reply' σ} {toLeft toRight : List Bytes}
    (h : Reaches role role' n ⟨left, ⟨.idle r', finished'⟩, toLeft, toRight⟩) (op' : Op')
    (hmay : role'.May op') (source : Source) (line : Nat → Bool)
    {o : Outcome (Except ProtocolError Reply' × σ)}
    (hrun : ((role'.perform op').run r').run ⟨source, toRight, line⟩ = some o) :
    Reaches role role' n ⟨left, ⟨.idle o.result.2, finished' ++ [(op', o.result.1)]⟩,
      toLeft ++ o.sent, o.endpoint.inbox⟩ :=
  ((h.tail (.right (.start op' hmay))).trans
    (reaches_of_moves_right (moves_of_run hrun toLeft))).tail (.right .finish)

/-- While the left party waits, the right one goes on until it has sent a frame or ends. -/
theorem reaches_of_serve {next : Option Bytes → Program (Except ProtocolError Reply × ρ)}
    {l r : Endpoint} {q : Program (Except ProtocolError Reply' × σ)}
    {o : Program.Joint (Except ProtocolError Reply × ρ) (Except ProtocolError Reply' × σ)}
    (ih : ∀ frame? q r o, (next frame?).pair q l r = some o →
      Reaches role role' ⟨⟨.busy op (next frame?), finished⟩, ⟨.busy op' q, finished'⟩, [],
          r.inbox⟩
        ⟨⟨.busy op (.done o.left.result), finished⟩, ⟨.busy op' (.done o.right.result), finished'⟩,
          o.left.endpoint.inbox, o.right.endpoint.inbox⟩)
    (hserve : Program.serve (fun frame q l r =>
      ((next frame).pair q l r).map (·.afterLeft (.received frame))) q l r = some o) :
    Reaches role role' ⟨⟨.busy op (.receive next), finished⟩, ⟨.busy op' q, finished'⟩, [],
        r.inbox⟩
      ⟨⟨.busy op (.done o.left.result), finished⟩, ⟨.busy op' (.done o.right.result), finished'⟩,
        o.left.endpoint.inbox, o.right.endpoint.inbox⟩ := by
  induction q generalizing r o with
  | done b =>
    obtain ⟨o', ho', rfl⟩ := Option.map_eq_some_iff.1 hserve
    have hrest := ih none _ _ _ ho'
    exact .head (.left (.move .closed)) hrest
  | draw length accept follow ihq =>
    simp only [Program.serve] at hserve
    split at hserve
    · rename_i block source hdraw
      have hrest := ihq block hserve
      exact .head (.right (.move (.draw (Source.length_of_draw hdraw)
        (Source.draw_accept hdraw)))) hrest
    · cases hserve
  | send frame follow ihq =>
    simp only [Program.serve] at hserve
    split at hserve
    · obtain ⟨o', ho', rfl⟩ := Option.map_eq_some_iff.1 hserve
      obtain ⟨o'', ho'', rfl⟩ := Option.map_eq_some_iff.1 ho'
      have hrest := ih (some frame) _ _ _ ho''
      exact .head (.right (.move .taken)) (.head (.left (.move .received)) hrest)
    · obtain ⟨o', ho', rfl⟩ := Option.map_eq_some_iff.1 hserve
      have hrest := ihq false ho'
      exact .head (.right (.move .refused)) hrest
  | receive follow ihq =>
    simp only [Program.serve] at hserve
    split at hserve
    · rename_i frame inbox hinbox
      obtain ⟨o', ho', rfl⟩ := Option.map_eq_some_iff.1 hserve
      have hrest := ihq (some frame) ho'
      rw [hinbox]
      exact .head (.right (.move .received)) hrest
    · rename_i hinbox
      obtain ⟨o', ho', rfl⟩ := Option.map_eq_some_iff.1 hserve
      obtain ⟨o'', ho'', rfl⟩ := Option.map_eq_some_iff.1 ho'
      have hrest := ih none _ _ _ ho''
      rw [hinbox] at hrest ⊢
      exact .head (.right (.move .closed)) (.head (.left (.move .closed)) hrest)
  | note event follow ihq =>
    obtain ⟨o', ho', rfl⟩ := Option.map_eq_some_iff.1 hserve
    have hrest := ihq ho'
    exact .head (.right (.move .noted)) hrest

theorem reaches_of_pair {p : Program (Except ProtocolError Reply × ρ)}
    {q : Program (Except ProtocolError Reply' × σ)} {l r : Endpoint}
    {o : Program.Joint (Except ProtocolError Reply × ρ) (Except ProtocolError Reply' × σ)}
    (hpair : p.pair q l r = some o) :
    Reaches role role' ⟨⟨.busy op p, finished⟩, ⟨.busy op' q, finished'⟩, l.inbox, r.inbox⟩
      ⟨⟨.busy op (.done o.left.result), finished⟩, ⟨.busy op' (.done o.right.result), finished'⟩,
        o.left.endpoint.inbox, o.right.endpoint.inbox⟩ := by
  induction p generalizing q l r o with
  | done a =>
    obtain ⟨o', ho', rfl⟩ := Option.map_eq_some_iff.1 hpair
    exact reaches_of_moves_right (moves_of_run ho' l.inbox)
  | draw length accept next ih =>
    simp only [Program.pair] at hpair
    split at hpair
    · rename_i block source hdraw
      have hrest := ih block hpair
      exact .head (.left (.move (.draw (Source.length_of_draw hdraw)
        (Source.draw_accept hdraw)))) hrest
    · cases hpair
  | send frame next ih =>
    simp only [Program.pair] at hpair
    split at hpair
    · obtain ⟨o', ho', rfl⟩ := Option.map_eq_some_iff.1 hpair
      have hrest := ih true ho'
      exact .head (.left (.move .taken)) hrest
    · obtain ⟨o', ho', rfl⟩ := Option.map_eq_some_iff.1 hpair
      have hrest := ih false ho'
      exact .head (.left (.move .refused)) hrest
  | receive next ih =>
    simp only [Program.pair] at hpair
    split at hpair
    · rename_i frame inbox hinbox
      obtain ⟨o', ho', rfl⟩ := Option.map_eq_some_iff.1 hpair
      have hrest := ih (some frame) ho'
      rw [hinbox]
      exact .head (.left (.move .received)) hrest
    · rename_i hinbox
      rw [hinbox]
      refine reaches_of_serve (fun frame? q r o ho => ?_) hpair
      have hrest := ih frame? ho
      rwa [hinbox] at hrest
  | note event next ih =>
    obtain ⟨o', ho', rfl⟩ := Option.map_eq_some_iff.1 hpair
    have hrest := ih ho'
    exact .head (.left (.move .noted)) hrest

/-- Both parties may run an operation at the same time. -/
theorem Reaches.run_both {n : Network Op Reply ρ Op' Reply' σ} (link : Link) {link' : Link}
    (h : Reaches role role' n ⟨⟨.idle r, finished⟩, ⟨.idle r', finished'⟩, link.first.inbox,
      link.second.inbox⟩) (op : Op) (hmay : role.May op) (op' : Op') (hmay' : role'.May op')
    {o : Program.Joint (Except ProtocolError Reply × ρ) (Except ProtocolError Reply' × σ)}
    (hrun : link.runBoth ((role.perform op).run r) ((role'.perform op').run r') =
      some (o, link')) :
    Reaches role role' n ⟨⟨.idle o.left.result.2, finished ++ [(op, o.left.result.1)]⟩,
      ⟨.idle o.right.result.2, finished' ++ [(op', o.right.result.1)]⟩, link'.first.inbox,
      link'.second.inbox⟩ := by
  obtain ⟨o', hpair, heq⟩ := Option.map_eq_some_iff.1 hrun
  cases heq
  have hstarted := (h.tail (.left (.start op hmay))).tail (.right (.start op' hmay'))
  exact ((hstarted.trans (reaches_of_pair hpair)).tail (.left .finish)).tail (.right .finish)

end Network

end TwoParty
