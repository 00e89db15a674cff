/-
The sender's privacy against any receiver. An answer hides the string `x_i` behind the seed
`v_i = g' ^ s * h' ^ t` and publishes `u_i = g_i ^ s * h_i ^ t`. Unless the request is a power of
the bases `(g_i, h_i)`, the exponents `(s, t)` and the pairs `(u_i, v_i)` correspond one to one, so
that under every published `u_i` every seed is left and is made by one pair of exponents.
-/
import TwoParty.Proofs.Attempt
import TwoParty.Proofs.Group.Residues
import TwoParty.Proofs.Group.Sampling
import TwoParty.Proofs.Transfer.Bases

namespace TwoParty

open CyclicGroup

/-! ## Two unknowns -/

/-- A linear map of the plane with nonzero determinant is a bijection. -/
theorem bijective_of_det_ne_zero {F : Type} [Field F] {a b c d : F} (h : a * d - b * c ≠ 0) :
    Function.Bijective fun v : F × F => (a * v.1 + b * v.2, c * v.1 + d * v.2) := by
  constructor
  · rintro ⟨s, t⟩ ⟨s', t'⟩ heq
    obtain ⟨h1, h2⟩ := Prod.mk.inj heq
    have hs : (a * d - b * c) * (s - s') = 0 := by linear_combination d * h1 - b * h2
    have ht : (a * d - b * c) * (t - t') = 0 := by linear_combination a * h2 - c * h1
    rw [mul_eq_zero, or_iff_right h, sub_eq_zero] at hs ht
    rw [hs, ht]
  · rintro ⟨x, y⟩
    refine ⟨((d * x - b * y) / (a * d - b * c), (a * y - c * x) / (a * d - b * c)), ?_⟩
    simp only [Prod.mk.injEq]
    constructor
    · rw [mul_div_assoc', mul_div_assoc', ← add_div, div_eq_iff h]; ring
    · rw [mul_div_assoc', mul_div_assoc', ← add_div, div_eq_iff h]; ring

namespace Transfer

variable {G : CyclicGroup}

/-! ## Blinding -/

/-- The published element and the seed of the mask for two exponents. -/
def blinding (bases request : G.Element × G.Element) (st : G.Scalar × G.Scalar) :
    G.Element × G.Element :=
  (randomize bases.1 bases.2 st.1 st.2, randomize request.1 request.2 st.1 st.2)

theorem blinding_antilog (hG : G.PrimeOrder) (g h a b : ZMod G.order) (st : G.Scalar × G.Scalar) :
    blinding (G.antilog g, G.antilog h) (G.antilog a, G.antilog b) st =
      (G.antilog (g * toZMod st.1 + h * toZMod st.2),
        G.antilog (a * toZMod st.1 + b * toZMod st.2)) := by
  unfold blinding randomize
  simp only [hG.exponentiate_antilog, hG.multiply_antilog]

/-- Off the powers of the bases, blinding is a bijection from pairs of exponents onto pairs of
members. -/
theorem bijOn_blinding (hG : G.PrimeOrder) {bases request : G.Element × G.Element}
    (hg : G.isMember bases.1 = true) (hh : G.isMember bases.2 = true) (hne : bases.1 ≠ G.identity)
    (hg' : G.isMember request.1 = true) (hh' : G.isMember request.2 = true)
    (hpower : ¬ IsPower bases request) :
    Set.BijOn (blinding bases request) Set.univ
      {p | G.isMember p.1 = true ∧ G.isMember p.2 = true} := by
  have := hG.fact
  obtain ⟨g, h⟩ := bases
  obtain ⟨g', h'⟩ := request
  obtain ⟨x, rfl⟩ := hG.exists_antilog hg
  obtain ⟨y, rfl⟩ := hG.exists_antilog hh
  obtain ⟨a, rfl⟩ := hG.exists_antilog hg'
  obtain ⟨b, rfl⟩ := hG.exists_antilog hh'
  rw [hG.identity_eq_antilog, ne_eq, hG.antilog_inj] at hne
  rw [isPower_antilog_iff hG hne, ← sub_eq_zero] at hpower
  -- of logarithms, blinding is the linear map whose determinant is not zero here
  obtain ⟨hinj, hsurj⟩ := bijective_of_det_ne_zero hpower
  refine ⟨?_, ?_, ?_⟩
  · rintro st -
    rw [blinding_antilog hG]
    exact ⟨hG.isMember_antilog _, hG.isMember_antilog _⟩
  · rintro ⟨s, t⟩ - ⟨s', t'⟩ - heq
    rw [blinding_antilog hG, blinding_antilog hG, Prod.mk.injEq, hG.antilog_inj, hG.antilog_inj]
      at heq
    have hst := @hinj (toZMod s, toZMod t) (toZMod s', toZMod t') (Prod.ext heq.1 heq.2)
    rw [Prod.mk.injEq, toZMod_inj, toZMod_inj] at hst
    rw [hst.1, hst.2]
  · rintro ⟨u, v⟩ ⟨hu, hv⟩
    obtain ⟨u, rfl⟩ := hG.exists_antilog hu
    obtain ⟨v, rfl⟩ := hG.exists_antilog hv
    obtain ⟨⟨s, t⟩, hst⟩ := hsurj (u, v)
    obtain ⟨h1, h2⟩ := Prod.mk.inj hst
    refine ⟨(ofZMod s, ofZMod t), trivial, ?_⟩
    rw [blinding_antilog hG, toZMod_ofZMod, toZMod_ofZMod, h1, h2]

/-! ## Answers -/

/-- Two random exponents in a row, and the source after them. -/
def nextPair (G : CyclicGroup) (source : Source) : Option ((G.Scalar × G.Scalar) × Source) :=
  (G.nextScalar source).bind fun (s, source) =>
    (G.nextScalar source).map fun (t, source) => ((s, t), source)

/-- The published element and the masked string for two exponents. -/
def Core.masked (core : Core) (request bases : G.Element × G.Element) (x : Bytes)
    (st : G.Scalar × G.Scalar) : Except InputError (Bytes × Bytes) := do
  let c ← mask core.kdf (blinding bases request st).2 x
  return (G.encode (blinding bases request st).1, c)

theorem run_maskFor (core : Core) (request bases : G.Element × G.Element) (x : Bytes)
    (e : Endpoint) :
    (core.maskFor request bases x).run.run e = (nextPair G e.source).map fun (st, source) =>
      Outcome.mk ((core.masked request bases x st).mapError .input) { e with source } [] := by
  unfold Core.maskFor nextPair Core.masked blinding
  rw [Attempt.run_of_bind, run_randomScalar_bind]
  rcases G.nextScalar e.source with _ | ⟨s, source⟩
  · rfl
  · simp only [Option.bind_some]
    rw [Attempt.run_of_bind, run_randomScalar_bind]
    rcases G.nextScalar source with _ | ⟨t, source'⟩
    · rfl
    · simp only [Option.bind_some, Option.map_some]
      rcases mask core.kdf (randomize request.1 request.2 s t) x with cause | c
      · rfl
      · rfl

/-- What becomes of a request that can be read: the strings are masked one after the other. -/
theorem run_answer {core : Core} {message : RequestMessage} {request : G.Element × G.Element}
    {x0 x1 : Bytes} (hx : core.checkInputs x0 x1 = .ok ())
    (hrequest : readRequest message = .ok request) (bases : Bases G) (e : Endpoint) :
    (core.answer bases message x0 x1).run.run e =
      (nextPair G e.source).bind fun (st, source) =>
        match core.masked request (bases.choose false) x0 st with
        | .error cause => some ⟨.error (.input cause), { e with source }, []⟩
        | .ok first => (nextPair G source).map fun (st, source) =>
          match core.masked request (bases.choose true) x1 st with
          | .error cause => ⟨.error (.input cause), { e with source }, []⟩
          | .ok second =>
            ⟨.ok ⟨first.1, first.2, second.1, second.2⟩, { e with source },
              [.noted ⟨.debug, "ot sender tuple computed", [("len", toString x0.length)],
                core.span⟩]⟩ := by
  unfold Core.answer
  rw [hx, hrequest, Attempt.require_ok, Attempt.judge_ok, pure_bind, pure_bind]
  rw [Attempt.run_bind, Program.run_bind, run_maskFor]
  rcases nextPair G e.source with _ | ⟨st, source⟩
  · rfl
  · simp only [Option.map_some, Option.bind_some]
    rcases core.masked request (bases.choose false) x0 st with cause | first
    · rfl
    · rw [Except.mapError, Attempt.onward]
      simp only
      rw [Attempt.run_bind, Program.run_bind, run_maskFor]
      rcases nextPair G source with _ | ⟨st', source'⟩
      · rfl
      · simp only [Option.map_some, Option.bind_some]
        rcases core.masked request (bases.choose true) x1 st' with cause | second
        · rfl
        · rfl

theorem run_answer_cheating {core : Core} {message : RequestMessage} {cause : Cheating}
    {x0 x1 : Bytes} (hx : core.checkInputs x0 x1 = .ok ())
    (hrequest : readRequest (G := G) message = .error cause) (bases : Bases G) (e : Endpoint) :
    (core.answer bases message x0 x1).run.run e =
      some ⟨.error (.cheating cause), e, [.noted (.accusation core.span cause)]⟩ := by
  unfold Core.answer
  rw [hx, hrequest, Attempt.require_ok, pure_bind]
  rfl

theorem nextPair_of_after {source : Source} {draws : List (Nat × (Bytes → Bool))}
    (h : (source.after (G.scalarDraw :: G.scalarDraw :: draws)).isSome = true) :
    ∃ st s, nextPair G source = some (st, s) ∧ (s.after draws).isSome = true := by
  obtain ⟨x, s, hs, h⟩ := nextScalar_of_after h
  obtain ⟨y, s', hs', h⟩ := nextScalar_of_after h
  refine ⟨(x, y), s', ?_, h⟩
  unfold nextPair
  rw [hs, Option.bind_some]
  simp only
  rw [hs']
  rfl

/-- An answer is made of the next two pairs of random exponents. -/
def Core.Answers (core : Core) (bases : Bases G) (request : G.Element × G.Element)
    (x0 x1 : Bytes) (source : Source) (answer : AnswerMessage) : Prop :=
  ∃ st0 source0 st1 source1, nextPair G source = some (st0, source0) ∧
    nextPair G source0 = some (st1, source1) ∧
    core.masked request (bases.choose false) x0 st0 = .ok (answer.u0, answer.c0) ∧
    core.masked request (bases.choose true) x1 st1 = .ok (answer.u1, answer.c1)

theorem answers_of_run {core : Core} {message : RequestMessage} {request : G.Element × G.Element}
    {x0 x1 : Bytes} (hx : core.checkInputs x0 x1 = .ok ())
    (hrequest : readRequest message = .ok request) {bases : Bases G} {e : Endpoint}
    {o : Outcome (Except ProtocolError AnswerMessage)}
    (h : (core.answer bases message x0 x1).run.run e = some o) {answer : AnswerMessage}
    (ho : o.result = .ok answer) : core.Answers bases request x0 x1 e.source answer := by
  rw [run_answer hx hrequest] at h
  obtain ⟨⟨st0, source0⟩, hst0, h⟩ := Option.bind_eq_some_iff.1 h
  simp only at h
  rcases h0 : core.masked request (bases.choose false) x0 st0 with cause | first
  · rw [h0] at h; cases h; cases ho
  · rw [h0] at h
    obtain ⟨⟨st1, source1⟩, hst1, h⟩ := Option.map_eq_some_iff.1 h
    simp only at h
    rcases h1 : core.masked request (bases.choose true) x1 st1 with cause | second
    · rw [h1] at h; subst h; cases ho
    · rw [h1] at h
      subst h
      cases ho
      exact ⟨st0, source0, st1, source1, hst0, hst1, h0, h1⟩

/-- The sender's privacy. Whatever the request, the sender accuses, or the request is a power of
the bases of one choice at most, and for a choice of whose bases it is none, the drawn exponents
correspond one to one with the pairs of a published element and a seed. -/
theorem answer_private (hG : G.PrimeOrder) (core : Core) {bases : Bases G} (hb : bases.Proven)
    (message : RequestMessage) {x0 x1 : Bytes} (hx : core.checkInputs x0 x1 = .ok ())
    (e : Endpoint) :
    (∀ o, (core.answer bases message x0 x1).run.run e = some o →
      (∃ cause, o.result = .error (.cheating cause)) ∨
      ∃ request, readRequest message = .ok request ∧
        ¬ (IsPower (bases.choose false) request ∧ IsPower (bases.choose true) request) ∧
        (∀ choice, ¬ IsPower (bases.choose choice) request →
          Set.BijOn (blinding (bases.choose choice) request) Set.univ
            {p | G.isMember p.1 = true ∧ G.isMember p.2 = true}) ∧
        ∀ answer, o.result = .ok answer → core.Answers bases request x0 x1 e.source answer) ∧
    ((e.source.after (List.replicate 4 G.scalarDraw)).isSome = true →
      ((core.answer bases message x0 x1).run.run e).isSome = true) := by
  constructor
  · intro o ho
    rcases hrequest : readRequest message with cause | request
    · left
      rw [run_answer_cheating hx hrequest] at ho
      cases ho
      exact ⟨cause, rfl⟩
    · right
      obtain ⟨hg, hh, hne⟩ := readRequest_ok hrequest
      refine ⟨request, rfl, hb.not_isPower_both hG hg hh hne, ?_, ?_⟩
      · intro choice hpower
        obtain ⟨hg', hh', hne'⟩ := hb.choose hG choice
        exact bijOn_blinding hG hg' hh' hne' hg hh hpower
      · intro answer hanswer
        exact answers_of_run hx hrequest ho hanswer
  · intro hafter
    rcases hrequest : readRequest message with cause | request
    · rw [run_answer_cheating hx hrequest]; rfl
    · obtain ⟨st0, source0, hst0, hafter⟩ := nextPair_of_after hafter
      obtain ⟨st1, source1, hst1, -⟩ := nextPair_of_after hafter
      rw [run_answer hx hrequest, hst0, Option.bind_some]
      simp only
      split
      · rfl
      · rw [hst1]; rfl

/-- Parameters for strings of one byte. -/
def core281 : Core := ⟨.cyclic 1 1, 1, none⟩

/-- Bases with `y = 2` and `α = 3`. -/
def bases281 : Bases Residues.order281.group :=
  ⟨exponentiateGenerator _ (scalar _ 2), exponentiateGenerator _ (scalar _ 3),
    exponentiateGenerator _ (scalar _ 8)⟩

/-- The request for the first string with `r = 5`. -/
def request281 : Residues.order281.group.Element × Residues.order281.group.Element :=
  (exponentiateGenerator _ (scalar _ 5), exponentiateGenerator _ (scalar _ 15))

theorem proven_bases281 : bases281.Proven where
  isMember_g1 := by decide
  isMember_h0 := by decide
  isMember_h1 := by decide
  g1_ne_identity := by decide
  holds_statement := ⟨scalar _ 3, Statement.holds_iff.2 (by decide)⟩

theorem answer_private_order281 :
    Set.BijOn (blinding (bases281.choose true) request281) Set.univ
      {p | Residues.order281.group.isMember p.1 = true ∧
        Residues.order281.group.isMember p.2 = true} := by
  let message : RequestMessage :=
    ⟨Residues.order281.group.encode request281.1, Residues.order281.group.encode request281.2⟩
  let e : Endpoint := ⟨⟨fun _ => 1, 0, 0⟩, [], fun _ => true⟩
  have hok : ((core281.answer bases281 message [1] [2]).run.run e).any (·.result.isOk) = true := by
    decide +kernel
  have hread : readRequest message = .ok request281 :=
    readRequest_encode Residues.primeOrder_order281 (by decide +kernel) (by decide +kernel)
      (by decide +kernel)
  obtain ⟨hdone, hends⟩ := answer_private Residues.primeOrder_order281 core281 proven_bases281
    message (show core281.checkInputs [1] [2] = .ok () from rfl) e
  obtain ⟨o, ho⟩ := Option.isSome_iff_exists.1 (hends (by decide +kernel))
  rw [ho] at hok
  rcases hdone o ho with ⟨cause, hc⟩ | ⟨request, hrequest, -, hbij, -⟩
  · simp [hc, Except.isOk, Except.toBool] at hok
  · rw [hread] at hrequest
    cases hrequest
    apply hbij true
    -- `2 * 15` and `8 * 5` differ modulo 281
    show ¬ IsPower (antilog _ 2, antilog _ 8) (antilog _ 5, antilog _ 15)
    rw [isPower_antilog_iff Residues.primeOrder_order281 (by decide)]
    decide

end Transfer

end TwoParty
