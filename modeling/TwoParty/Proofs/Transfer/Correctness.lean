/-
Transfers between parties that keep to the protocol. The receiver's bases convince the sender
whatever was drawn; then in every transfer the element `u_i ^ r` that the receiver computes is the
seed of the mask of its choice, so that it reads the chosen string. All checks pass, and no frame
is left over.
-/
import TwoParty.Transfer.Receiver
import TwoParty.Proofs.Group.Curve.Order
import TwoParty.Proofs.Group.Powers
import TwoParty.Proofs.KeyDerivation
import TwoParty.Proofs.Sigma.Knowledge
import TwoParty.Proofs.Transfer.Privacy

namespace TwoParty.Transfer

open CyclicGroup

variable {G : CyclicGroup}

/-! ## The receiver's bases -/

/-- The bases made of the exponents `y` and `α`. -/
def Bases.ofExponents (y alpha : G.Scalar) : Bases G :=
  let g1 := G.exponentiateGenerator y
  ⟨g1, G.exponentiateGenerator alpha, G.exponentiate g1 (G.add alpha G.one)⟩

namespace Bases

variable (hG : G.PrimeOrder) {y : G.Scalar} (hy : toZMod y ≠ 0) (alpha : G.Scalar)
include hG

theorem isMember_exponentiateGenerator (a : G.Scalar) :
    G.isMember (G.exponentiateGenerator a) = true :=
  hG.isMember_exponentiate hG.isMember_generator a

omit hG in
/-- The second exponent is the witness of the bases. -/
theorem holds_ofExponents (hG : G.PowerLaws) (y : G.Scalar) :
    (ofExponents y alpha).statement.holds alpha = true := by
  have hg1 : G.isMember (G.exponentiateGenerator y) = true :=
    hG.isMember_exponentiate y hG.isMember_generator
  rw [Statement.holds_iff]
  intro i hi
  interval_cases i
  · rfl
  · show G.exponentiate (G.exponentiateGenerator y) alpha = G.multiply
      (G.exponentiate (G.exponentiateGenerator y) (G.add alpha G.one))
      (G.exponentiateInverse (G.exponentiateGenerator y) G.one)
    rw [hG.exponentiate_add alpha G.one hg1,
      hG.cancel G.one (hG.isMember_exponentiate alpha hg1) hg1]

include hy in
theorem proven_ofExponents : (ofExponents y alpha).Proven where
  isMember_g1 := isMember_exponentiateGenerator hG y
  isMember_h0 := isMember_exponentiateGenerator hG alpha
  isMember_h1 := hG.isMember_exponentiate (isMember_exponentiateGenerator hG y) _
  g1_ne_identity := hG.exponentiate_ne_identity hG.isMember_generator hG.generator_ne_identity hy
  holds_statement := ⟨alpha, holds_ofExponents alpha hG.powerLaws y⟩

theorem Proven.isValid_statement {bases : Bases G} (hb : bases.Proven) :
    bases.statement.isValid = true := by
  have hinv : G.isMember (G.exponentiateInverse bases.g1 G.one) = true :=
    hG.isMember_exponentiate hb.isMember_g1 _
  rw [Statement.isValid_iff]
  intro i hi
  interval_cases i
  · exact ⟨hG.isMember_generator, hb.isMember_h0⟩
  · exact ⟨hb.isMember_g1, hG.isMember_multiply hb.isMember_h1 hinv⟩

/-- The bases as they are sent. -/
def message (bases : Bases G) : SetupMessage :=
  ⟨G.encode bases.g1, G.encode bases.h0, G.encode bases.h1⟩

theorem Proven.ofMessage {bases : Bases G} (hb : bases.Proven) :
    Bases.ofMessage (message bases) = .ok bases := by
  unfold Bases.ofMessage message
  rw [hG.decodeNontrivial_encode "g1" hb.isMember_g1 hb.g1_ne_identity,
    hG.decodeMember_encode "h0" hb.isMember_h0, hG.decodeMember_encode "h1" hb.isMember_h1]
  rfl

theorem Proven.fits_message {bases : Bases G} (hb : bases.Proven) : Wire.Fits (message bases) :=
  ⟨hG.fits_element hb.isMember_g1, hG.fits_element hb.isMember_h0, hG.fits_element hb.isMember_h1⟩

end Bases

theorem yields_chooseBases {core : Core} {s s₁ s₂ : Source} {y alpha : G.Scalar}
    (hy : G.nextNonzeroScalar s = some (y, s₁)) (halpha : G.nextScalar s₁ = some (alpha, s₂)) :
    core.chooseBases.Yields s
      ((⟨.ofExponents y alpha, alpha⟩, (Bases.ofExponents y alpha).message), s₂) := by
  unfold Core.chooseBases
  refine (yields_randomNonzeroScalar hy).bind ?_
  refine (yields_randomScalar halpha).bind ?_
  exact .note _ (.done _ s₂)

/-! ## Setup -/

section Setup

variable (hG : G.PrimeOrder) {kdf : KeyDerivation} {config : Config} {role : SigmaRole G}
  {core : Core} (hrole : SigmaRole.new? G config.sigma = .ok role)
  (hcore : Core.new? kdf config = .ok core)
include hG hrole hcore

theorem setup_meets {s s₁ s₂ s₃ s₄ t t' : Source} {y alpha r trapdoor opener : G.Scalar}
    {e : Challenge} (hy : G.nextNonzeroScalar s = some (y, s₁))
    (halpha : G.nextScalar s₁ = some (alpha, s₂)) (hr : G.nextScalar s₂ = some (r, s₃))
    (htrapdoor : G.nextScalar s₃ = some (trapdoor, s₄))
    (he : e.bytes = t.peek role.soundness.challengeLength)
    (hopener : G.nextScalar (t.advance role.soundness.challengeLength) = some (opener, t')) :
    (Receiver.setup G kdf config).Meets (Sender.setup G kdf config) s t
      ((.first, Wire.write (Bases.ofExponents y alpha).message) ::
        SigmaRole.knowledgePassages (Bases.ofExponents y alpha).statement alpha r trapdoor opener e)
      (⟨core, .ofExponents y alpha⟩, s₄) (⟨core, .ofExponents y alpha⟩, t') := by
  have hb : (Bases.ofExponents y alpha).Proven :=
    Bases.proven_ofExponents hG (toZMod_ne_zero_of_nextNonzeroScalar hy) alpha
  have hknowledge := SigmaRole.knowledge_meets hG (by norm_num) rfl (hb.isValid_statement hG)
    (Bases.holds_ofExponents alpha hG.powerLaws y) hr htrapdoor he hopener
  unfold Receiver.setup Sender.setup
  rw [hrole, hcore]
  simp only [Attempt.configure_ok, pure_bind]
  refine (Attempt.Yields.of (yields_chooseBases hy halpha)).left ?_
  -- the bases go over and are read back, then the statement about them is proven
  refine Attempt.Meets.send_bind (hb.fits_message hG) ?_
  simp only [hb.ofMessage hG, Attempt.judge_ok, pure_bind]
  refine hknowledge.bind_quiet ?_
  simp only [if_true]
  refine (Attempt.Yields.note _ s₄).left ?_
  refine (Attempt.Yields.note _ t').right ?_
  exact Attempt.Meets.pure _ _ s₄ t'

end Setup

/-! ## Masks -/

theorem mask_mask {kdf : KeyDerivation} (hkdf : kdf.Faithful) (seed : G.Element) {x : Bytes}
    (hx : x.length ≤ kdf.maxLength) :
    ∃ c, mask kdf seed x = .ok c ∧ c.length = x.length ∧ mask kdf seed c = .ok x := by
  obtain ⟨key, hkey, -⟩ := hkdf.derive_ok (G.encode seed) hx
  have hc := Bytes.length_xor x key
  refine ⟨x.xor key, ?_, hc, ?_⟩
  · unfold mask
    rw [hkey]
    rfl
  · unfold mask
    rw [hc, hkey]
    exact congrArg Except.ok (Bytes.xor_xor_cancel x key)

/-- Raising the published element to the receiver's exponent gives the seed of the mask. -/
theorem randomize_exponentiate (hG : G.PrimeOrder) {b d : G.Element} (hb : G.isMember b = true)
    (hd : G.isMember d = true) (r s t : G.Scalar) :
    randomize (G.exponentiate b r) (G.exponentiate d r) s t =
      G.exponentiate (randomize b d s t) r := by
  obtain ⟨x, rfl⟩ := hG.exists_antilog hb
  obtain ⟨y, rfl⟩ := hG.exists_antilog hd
  unfold randomize
  simp only [hG.exponentiate_antilog, hG.multiply_antilog, hG.antilog_inj]
  ring

/-! ## One transfer -/

/-- The pair of bases to the power of the request. -/
def Bases.request (bases : Bases G) (choice : Bool) (r : G.Scalar) : G.Element × G.Element :=
  (G.exponentiate (bases.choose choice).1 r, G.exponentiate (bases.choose choice).2 r)

theorem yields_request {core : Core} (bases : Bases G) (choice : Bool) {s s' : Source}
    {r : G.Scalar} (hr : G.nextNonzeroScalar s = some (r, s')) :
    (core.request bases choice).Yields s
      ((⟨core, choice, r⟩,
        ⟨G.encode (bases.request choice r).1, G.encode (bases.request choice r).2⟩), s') := by
  unfold Core.request
  exact (yields_randomNonzeroScalar hr).bind (.done _ s')

theorem yields_answer {core : Core} {message : RequestMessage} {request : G.Element × G.Element}
    {x0 x1 : Bytes} (hx : core.checkInputs x0 x1 = .ok ())
    (hrequest : readRequest message = .ok request) {bases : Bases G} {t t₁ t₂ : Source}
    {st0 st1 : G.Scalar × G.Scalar} {first second : Bytes × Bytes}
    (hst0 : nextPair G t = some (st0, t₁)) (hst1 : nextPair G t₁ = some (st1, t₂))
    (hfirst : core.masked request (bases.choose false) x0 st0 = .ok first)
    (hsecond : core.masked request (bases.choose true) x1 st1 = .ok second) :
    (core.answer bases message x0 x1).Yields t (⟨first.1, first.2, second.1, second.2⟩, t₂) := by
  intro inbox line
  refine ⟨[⟨.debug, "ot sender tuple computed", [("len", toString x0.length)], core.span⟩], ?_⟩
  rw [run_answer hx hrequest, hst0, Option.bind_some]
  simp only [hfirst]
  rw [hst1, Option.map_some]
  simp only [hsecond]
  rfl

theorem choose_answer (hG : G.PrimeOrder) (pending : Pending G) {u0 u1 : G.Element}
    (hu0 : G.isMember u0 = true) (hu1 : G.isMember u1 = true) {c0 c1 : Bytes}
    (hlen : c0.length = c1.length) (hmax : c0.length ≤ pending.core.maxPayload) :
    pending.choose ⟨G.encode u0, c0, G.encode u1, c1⟩ =
      .ok ⟨pending.core, pending.r, if pending.choice then u1 else u0,
        if pending.choice then c1 else c0⟩ := by
  unfold Pending.choose
  simp only [hG.decodeMember_encode "u0" hu0, hG.decodeMember_encode "u1" hu1, bind, Except.bind]
  rw [if_neg (not_not.2 hlen), if_neg (not_lt.2 hmax)]
  cases pending.choice with
  | false => rfl
  | true => rfl

theorem yields_finish (hG : G.PrimeOrder) (pending : Pending G) {u0 u1 : G.Element}
    (hu0 : G.isMember u0 = true) (hu1 : G.isMember u1 = true) {c0 c1 x : Bytes}
    (hlen : c0.length = c1.length) (hmax : c0.length ≤ pending.core.maxPayload)
    (hx : mask pending.core.kdf
      (G.exponentiate (if pending.choice then u1 else u0) pending.r)
      (if pending.choice then c1 else c0) = .ok x) (s : Source) :
    (pending.finish ⟨G.encode u0, c0, G.encode u1, c1⟩).Yields s (x, s) := by
  unfold Pending.finish
  rw [choose_answer hG pending hu0 hu1 hlen hmax, Attempt.judge_ok, pure_bind]
  unfold Chosen.unmask
  simp only [hx, Attempt.require_ok, pure_bind]
  exact (Attempt.Yields.note _ s).bind (.pure x s)

theorem masked_ok {core : Core} {request bases : G.Element × G.Element} {x c : Bytes}
    {st : G.Scalar × G.Scalar} (h : mask core.kdf (blinding bases request st).2 x = .ok c) :
    core.masked request bases x st = .ok (G.encode (blinding bases request st).1, c) := by
  unfold Core.masked
  rw [h]
  rfl

theorem checkInputs_iff {core : Core} {x0 x1 : Bytes} :
    core.checkInputs x0 x1 = .ok () ↔ x0.length = x1.length ∧ x0.length ≤ core.maxPayload := by
  unfold Core.checkInputs
  split
  · rename_i h; exact iff_of_false (by simp) fun h' => h h'.1
  · rename_i h
    split
    · rename_i h'; exact iff_of_false (by simp) fun h'' => absurd h''.2 (not_le.2 h')
    · rename_i h'; exact iff_of_true rfl ⟨not_not.1 h, not_lt.1 h'⟩

theorem isMember_blinding (hG : G.PrimeOrder) {bases : Bases G} (hb : bases.Proven) (choice : Bool)
    (request : G.Element × G.Element) (st : G.Scalar × G.Scalar) :
    G.isMember (blinding (bases.choose choice) request st).1 = true := by
  obtain ⟨hg, hh, -⟩ := hb.choose hG choice
  exact hG.isMember_multiply (hG.isMember_exponentiate hg _) (hG.isMember_exponentiate hh _)

/-- Both strings are masked, with keys of their lengths, and each is got back with its seed. -/
theorem exists_answer {core : Core} (hkdf : core.kdf.Faithful)
    (hlimit : core.maxPayload ≤ core.kdf.maxLength) {message : RequestMessage}
    {request : G.Element × G.Element} {x0 x1 : Bytes} (hx : core.checkInputs x0 x1 = .ok ())
    (hrequest : readRequest message = .ok request) (bases : Bases G) {t t₁ t₂ : Source}
    {st0 st1 : G.Scalar × G.Scalar} (hst0 : nextPair G t = some (st0, t₁))
    (hst1 : nextPair G t₁ = some (st1, t₂)) :
    ∃ c0 c1, (core.answer bases message x0 x1).Yields t
        (⟨G.encode (blinding (bases.choose false) request st0).1, c0,
          G.encode (blinding (bases.choose true) request st1).1, c1⟩, t₂) ∧
      c0.length = x0.length ∧ c1.length = x1.length ∧
      mask core.kdf (blinding (bases.choose false) request st0).2 c0 = .ok x0 ∧
      mask core.kdf (blinding (bases.choose true) request st1).2 c1 = .ok x1 := by
  obtain ⟨hlen, hmax⟩ := checkInputs_iff.1 hx
  have hmax' : x1.length ≤ core.maxPayload := by omega
  obtain ⟨c0, hc0, hlen0, hx0⟩ := mask_mask hkdf
    (blinding (bases.choose false) request st0).2 (hmax.trans hlimit)
  obtain ⟨c1, hc1, hlen1, hx1⟩ := mask_mask hkdf
    (blinding (bases.choose true) request st1).2 (hmax'.trans hlimit)
  exact ⟨c0, c1, yields_answer hx hrequest hst0 hst1 (masked_ok hc0) (masked_ok hc1), hlen0, hlen1,
    hx0, hx1⟩

/-- A transfer gives the receiver the string of its choice. -/
theorem transfer_meets (hG : G.PrimeOrder) {core : Core} (hkdf : core.kdf.Faithful)
    (hlimit : core.maxPayload ≤ core.kdf.maxLength) {bases : Bases G} (hb : bases.Proven)
    {x0 x1 : Bytes} (hx : core.checkInputs x0 x1 = .ok ()) (choice : Bool) {s s' t t₁ t₂ : Source}
    {r : G.Scalar} {st0 st1 : G.Scalar × G.Scalar} (hr : G.nextNonzeroScalar s = some (r, s'))
    (hst0 : nextPair G t = some (st0, t₁)) (hst1 : nextPair G t₁ = some (st1, t₂)) :
    ∃ passages, (Receiver.transfer ⟨core, bases⟩ choice).Meets (Sender.transfer ⟨core, bases⟩ x0 x1)
      s t passages (if choice then x1 else x0, s') ((), t₂) := by
  obtain ⟨hlen, hmax⟩ := checkInputs_iff.1 hx
  obtain ⟨hg, hh, hne⟩ := hb.choose hG choice
  have hg' := hG.isMember_exponentiate hg r
  have hh' := hG.isMember_exponentiate hh r
  -- the request is read back: with `r` not zero its first element is not the identity
  have hrequest := readRequest_encode hG hg' hh'
    (hG.exponentiate_ne_identity hg hne (toZMod_ne_zero_of_nextNonzeroScalar hr))
  have hfits : Wire.Fits (RequestMessage.mk (G.encode (bases.request choice r).1)
      (G.encode (bases.request choice r).2)) := ⟨hG.fits_element hg', hG.fits_element hh'⟩
  obtain ⟨c0, c1, hanswer, hlen0, hlen1, hx0, hx1⟩ :=
    exists_answer hkdf hlimit hx hrequest bases hst0 hst1
  have hm0 := isMember_blinding hG hb false (bases.request choice r) st0
  have hm1 := isMember_blinding hG hb true (bases.request choice r) st1
  have hkdfmax := hkdf.maxLength_lt
  have hc0 : c0.length < 2 ^ 64 := by omega
  have hc1 : c1.length < 2 ^ 64 := by omega
  have hfits' : Wire.Fits (AnswerMessage.mk
      (G.encode (blinding (bases.choose false) (bases.request choice r) st0).1) c0
      (G.encode (blinding (bases.choose true) (bases.request choice r) st1).1) c1) :=
    ⟨hG.fits_element hm0, hc0, hG.fits_element hm1, hc1⟩
  -- the receiver computes the seed of its choice
  have hseed : mask core.kdf
      (G.exponentiate (if choice then (blinding (bases.choose true) (bases.request choice r) st1).1
        else (blinding (bases.choose false) (bases.request choice r) st0).1) r)
      (if choice then c1 else c0) = .ok (if choice then x1 else x0) := by
    cases choice with
    | false =>
      have hagree := randomize_exponentiate hG hg hh r st0.1 st0.2
      exact (congrArg (mask core.kdf · c0) hagree.symm).trans hx0
    | true =>
      have hagree := randomize_exponentiate hG hg hh r st1.1 st1.2
      exact (congrArg (mask core.kdf · c1) hagree.symm).trans hx1
  have hfinish :=
    yields_finish hG ⟨core, choice, r⟩ hm0 hm1 (by omega) (hlen0.trans_le hmax) hseed s'
  apply Exists.intro
  unfold Receiver.transfer Sender.transfer
  rw [hx, Attempt.require_ok, pure_bind]
  apply (Attempt.Yields.of (yields_request bases choice hr)).left
  apply Attempt.Meets.send_bind hfits
  apply hanswer.right
  exact Attempt.Yields.receive_last hfits' hfinish

/-! ## Whole runs -/

/-- The groups that the protocols are offered: residues that were accepted for two primes, and the
curve. -/
inductive Offered : CyclicGroup → Prop
  | residues {p q g : Nat} {R : Residues} (hnew : Residues.new? p q g = .ok R) (hp : p.Prime)
      (hq : q.Prime) : Offered R.group
  | curve : Offered Curve.group

theorem Offered.primeOrder (h : Offered G) : G.PrimeOrder := by
  cases h with
  | residues hnew hp hq =>
    obtain ⟨rfl, rfl, -⟩ := Residues.new?_ok hnew
    exact Residues.primeOrder hp hq
  | curve => exact Curve.primeOrder

/-- One transfer: the receiver's choice and the sender's strings. -/
structure Round where
  choice : Bool
  x0 : Bytes
  x1 : Bytes

/-- The string that the receiver chooses. -/
def Round.chosen (round : Round) : Bytes :=
  if round.choice then round.x1 else round.x0

/-- The rounds are run one after the other over the link: in each both parties succeed, the
receiver reads the string of its choice, and no frame is left. -/
def Succeed (receiver : Receiver G) (sender : Sender G) : List Round → Link → Prop
  | [], _ => True
  | round :: rounds, link => ∃ o link',
      link.runBoth (receiver.transfer round.choice).run (sender.transfer round.x0 round.x1).run =
        some (o, link') ∧
      o.left.result = .ok round.chosen ∧ o.right.result = .ok () ∧
      link'.first.inbox = [] ∧ link'.second.inbox = [] ∧ Succeed receiver sender rounds link'

/-- What the receiver draws in a setup and in the rounds after it. -/
def receiverDraws (G : CyclicGroup) (rounds : Nat) : List (Nat × (Bytes → Bool)) :=
  [G.nonzeroDraw, G.scalarDraw, G.scalarDraw, G.scalarDraw] ++ List.replicate rounds G.nonzeroDraw

/-- What the sender draws in a setup and in the rounds after it. -/
def senderDraws (soundness : Soundness G.order) (rounds : Nat) : List (Nat × (Bytes → Bool)) :=
  [soundness.challengeDraw, G.scalarDraw] ++ List.replicate (4 * rounds) G.scalarDraw

theorem succeed_rounds (hG : G.PrimeOrder) {core : Core} (hkdf : core.kdf.Faithful)
    (hlimit : core.maxPayload ≤ core.kdf.maxLength) {bases : Bases G} (hb : bases.Proven)
    (rounds : List Round) (hrounds : ∀ round ∈ rounds, core.checkInputs round.x0 round.x1 = .ok ())
    (s t : Source) (hs : (s.after (List.replicate rounds.length G.nonzeroDraw)).isSome = true)
    (ht : (t.after (List.replicate (4 * rounds.length) G.scalarDraw)).isSome = true) :
    Succeed ⟨core, bases⟩ ⟨core, bases⟩ rounds (.fresh s t) := by
  induction rounds generalizing s t with
  | nil => trivial
  | cons round rounds ih =>
    rw [List.forall_mem_cons] at hrounds
    -- a round takes one exponent from the receiver and four from the sender
    obtain ⟨r, s', hr, hs⟩ := nextNonzeroScalar_of_after hs
    rw [List.length_cons, Nat.mul_succ] at ht
    obtain ⟨st0, t₁, hst0, ht⟩ := nextPair_of_after ht
    obtain ⟨st1, t₂, hst1, ht⟩ := nextPair_of_after ht
    obtain ⟨passages, hmeets⟩ :=
      transfer_meets hG hkdf hlimit hb hrounds.1 round.choice hr hst0 hst1
    obtain ⟨o, hrun, hleft, hright⟩ := hmeets.runBoth
    exact ⟨o, _, hrun, hleft, hright, rfl, rfl, ih hrounds.2 s' t₂ hs ht⟩

theorem Core.new?_ok {kdf : KeyDerivation} {config : Config} {core : Core}
    (h : Core.new? kdf config = .ok core) :
    core = ⟨kdf, config.maxPayload, config.span⟩ ∧ config.maxPayload ≤ kdf.maxLength := by
  unfold Core.new? at h
  split at h
  · rename_i hle; cases h; exact ⟨rfl, hle⟩
  · cases h

/-- Correctness. Over an offered group, with parameters that both parties accept and sources from
which all draws end, the setups succeed; after them every round succeeds and gives the receiver the
string of its choice; and no frame is ever left over. -/
theorem transfers_correct (hG : Offered G) {kdf : KeyDerivation} (hkdf : kdf.Faithful)
    {config : Config} {role : SigmaRole G} {core : Core}
    (hrole : SigmaRole.new? G config.sigma = .ok role) (hcore : Core.new? kdf config = .ok core)
    (rounds : List Round) (hrounds : ∀ round ∈ rounds,
      round.x0.length = round.x1.length ∧ round.x0.length ≤ config.maxPayload)
    (s t : Source) (hs : (s.after (receiverDraws G rounds.length)).isSome = true)
    (ht : (t.after (senderDraws role.soundness rounds.length)).isSome = true) :
    ∃ o link receiver sender,
      (Link.fresh s t).runBoth (Receiver.setup G kdf config).run (Sender.setup G kdf config).run =
        some (o, link) ∧
      o.left.result = .ok receiver ∧ o.right.result = .ok sender ∧
      link.first.inbox = [] ∧ link.second.inbox = [] ∧ Succeed receiver sender rounds link := by
  have hG := hG.primeOrder
  -- the draws of the setup: the bases, then the prover's, and the challenge's
  obtain ⟨y, s₁, hy, hs⟩ := nextNonzeroScalar_of_after hs
  obtain ⟨alpha, s₂, halpha, hs⟩ := nextScalar_of_after hs
  obtain ⟨r, s₃, hr, hs⟩ := nextScalar_of_after hs
  obtain ⟨trapdoor, s₄, htrapdoor, hs⟩ := nextScalar_of_after hs
  obtain ⟨block, t₁, hblock, ht⟩ := Source.after_cons_isSome ht
  cases hblock
  obtain ⟨opener, t₂, hopener, ht⟩ := nextScalar_of_after ht
  have hsetup := setup_meets hG hrole hcore hy halpha hr htrapdoor
    (e := ⟨t.peek role.soundness.challengeLength⟩) rfl hopener
  -- both parties end with the same bases, and the rounds go on from their sources
  obtain ⟨o, hrun, hleft, hright⟩ := hsetup.runBoth
  refine ⟨o, _, _, _, hrun, hleft, hright, rfl, rfl, ?_⟩
  obtain ⟨rfl, hlimit⟩ := Core.new?_ok hcore
  have hb := Bases.proven_ofExponents hG (toZMod_ne_zero_of_nextNonzeroScalar hy) alpha
  exact succeed_rounds hG hkdf hlimit hb rounds
    (fun round hround => checkInputs_iff.2 (hrounds round hround)) s₄ t₂ hs ht

/-- Parameters with challenges of one byte and strings of four. -/
def config281 : Config := { soundnessBits := 8, maxPayload := 4 }

/-- A source of bytes that are all one; every exponent below 281 drawn from it is 257. -/
def ones : Source := ⟨fun _ => 1, 0, 0⟩

theorem transfers_correct_order281 :
    ∃ o link receiver sender,
      (Link.fresh ones ones).runBoth
          (Receiver.setup Residues.order281.group .hkdfSha256 config281).run
          (Sender.setup Residues.order281.group .hkdfSha256 config281).run = some (o, link) ∧
      o.left.result = .ok receiver ∧ o.right.result = .ok sender ∧
      link.first.inbox = [] ∧ link.second.inbox = [] ∧
      Succeed receiver sender [⟨false, [1, 2], [3, 4]⟩, ⟨true, [5], [6]⟩] link :=
  transfers_correct
    (.residues (show Residues.new? 563 281 9 = .ok Residues.order281 from rfl) (by norm_num)
      (by norm_num))
    KeyDerivation.faithful_hkdfSha256
    (show SigmaRole.new? Residues.order281.group config281.sigma = .ok SigmaRole.order281 from rfl)
    rfl _ (by decide) _ _ (by decide +kernel) (by decide +kernel)

end TwoParty.Transfer
