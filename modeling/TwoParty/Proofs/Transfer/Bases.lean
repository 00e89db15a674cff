/-
The receiver's bases in terms of logarithms. With `g1 = g ^ y` the proven statement says that
`h0 = g ^ α` and `h1 = g1 ^ (α + 1)` for one `α`; a request is answered for the choices of which it
is a power of both bases, and there is never more than one.
-/
import TwoParty.Transfer.Sender
import TwoParty.Proofs.Sigma.Statement

namespace TwoParty.Transfer

open CyclicGroup

variable {G : CyclicGroup}

/-! ## Proven bases -/

/-- The bases are members of the group, `g1` is not the identity, and their statement is true. -/
structure Bases.Proven (bases : Bases G) : Prop where
  isMember_g1 : G.isMember bases.g1 = true
  isMember_h0 : G.isMember bases.h0 = true
  isMember_h1 : G.isMember bases.h1 = true
  g1_ne_identity : bases.g1 ≠ G.identity
  holds_statement : ∃ alpha, bases.statement.holds alpha = true

theorem Bases.holds_statement_iff (hG : G.PrimeOrder) {bases : Bases G}
    (hg : G.isMember bases.g1 = true) (hh : G.isMember bases.h1 = true) (alpha : G.Scalar) :
    bases.statement.holds alpha = true ↔
      bases.h0 = G.exponentiateGenerator alpha ∧
        bases.h1 = G.exponentiate bases.g1 (G.add alpha G.one) := by
  obtain ⟨y, hy⟩ := hG.exists_antilog hg
  obtain ⟨z, hz⟩ := hG.exists_antilog hh
  have hsecond : G.exponentiate bases.g1 alpha =
        G.multiply bases.h1 (G.exponentiateInverse bases.g1 G.one) ↔
      bases.h1 = G.exponentiate bases.g1 (G.add alpha G.one) := by
    rw [← hy, ← hz, hG.exponentiate_antilog, hG.exponentiateInverse_antilog, hG.multiply_antilog,
      hG.exponentiate_antilog, hG.antilog_inj, hG.antilog_inj, toZMod_add, toZMod_one]
    constructor
    · intro h; linear_combination -h
    · intro h; linear_combination -h
  have hholds : bases.statement.holds alpha = true ↔
      G.exponentiate G.generator alpha = bases.h0 ∧
        G.exponentiate bases.g1 alpha =
          G.multiply bases.h1 (G.exponentiateInverse bases.g1 G.one) := by
    rw [Statement.holds_iff]
    constructor
    · intro h
      exact ⟨h 0 (by norm_num), h 1 (by norm_num)⟩
    · rintro ⟨h0, h1⟩ i hi
      interval_cases i
      · exact h0
      · exact h1
  rw [hholds, hsecond]
  exact and_congr_left' eq_comm

/-- The logarithms of proven bases. -/
theorem Bases.Proven.exists_logarithms (hG : G.PrimeOrder) {bases : Bases G} (h : bases.Proven) :
    ∃ y α : ZMod G.order, y ≠ 0 ∧ bases.g1 = G.antilog y ∧ bases.h0 = G.antilog α ∧
      bases.h1 = G.antilog (y * (α + 1)) := by
  obtain ⟨alpha, hα⟩ := h.holds_statement
  obtain ⟨h0, h1⟩ := (Bases.holds_statement_iff hG h.isMember_g1 h.isMember_h1 alpha).1 hα
  obtain ⟨y, hy⟩ := hG.exists_antilog h.isMember_g1
  refine ⟨y, toZMod alpha, ?_, hy.symm, ?_, ?_⟩
  · rintro rfl
    exact h.g1_ne_identity (hy.symm.trans hG.identity_eq_antilog.symm)
  · rw [h0, exponentiateGenerator_eq_antilog]
  · rw [h1, ← hy, hG.exponentiate_antilog, toZMod_add, toZMod_one]

/-- The bases of either choice are members, and the first is not the identity. -/
theorem Bases.Proven.choose (hG : G.PrimeOrder) {bases : Bases G} (h : bases.Proven)
    (choice : Bool) :
    G.isMember (bases.choose choice).1 = true ∧ G.isMember (bases.choose choice).2 = true ∧
      (bases.choose choice).1 ≠ G.identity := by
  cases choice with
  | false => exact ⟨hG.isMember_generator, h.isMember_h0, hG.generator_ne_identity⟩
  | true => exact ⟨h.isMember_g1, h.isMember_h1, h.g1_ne_identity⟩

/-! ## Requests -/

/-- A request that is read has members, of which the first is not the identity. -/
theorem readRequest_ok {message : RequestMessage} {request : G.Element × G.Element}
    (h : readRequest message = .ok request) :
    G.isMember request.1 = true ∧ G.isMember request.2 = true ∧ request.1 ≠ G.identity := by
  unfold readRequest at h
  rcases hg : G.decodeNontrivial "g'" message.g with cause | g
  · rw [hg] at h; cases h
  · rw [hg] at h
    rcases hh : G.decodeMember "h'" message.h with cause | h'
    · rw [hh] at h; cases h
    · rw [hh] at h
      cases h
      obtain ⟨hm, hne⟩ := decodeNontrivial_ok hg
      exact ⟨isMember_of_decodeMember hm, isMember_of_decodeMember hh, hne⟩

theorem readRequest_encode (hG : G.PrimeOrder) {g h : G.Element} (hg : G.isMember g = true)
    (hh : G.isMember h = true) (hne : g ≠ G.identity) :
    readRequest ⟨G.encode g, G.encode h⟩ = .ok (g, h) := by
  unfold readRequest
  rw [hG.decodeNontrivial_encode "g'" hg hne, hG.decodeMember_encode "h'" hh]
  rfl

/-- The request is one power of both bases, so with them it makes a Diffie-Hellman tuple. -/
def IsPower (bases request : G.Element × G.Element) : Prop :=
  ∃ k : G.Scalar, request.1 = G.exponentiate bases.1 k ∧ request.2 = G.exponentiate bases.2 k

/-- With logarithms, to be a power is to have determinant zero. -/
theorem isPower_antilog_iff (hG : G.PrimeOrder) {g h a b : ZMod G.order} (hg : g ≠ 0) :
    IsPower (G.antilog g, G.antilog h) (G.antilog a, G.antilog b) ↔ g * b = h * a := by
  have := hG.fact
  unfold IsPower
  simp only [hG.exponentiate_antilog, hG.antilog_inj]
  constructor
  · rintro ⟨k, rfl, rfl⟩
    ring
  · intro hdet
    refine ⟨ofZMod (a * g⁻¹), ?_, ?_⟩
    · rw [toZMod_ofZMod]
      field_simp
    · rw [toZMod_ofZMod]
      field_simp
      linear_combination hdet

/-- A request whose first element is not the identity is a power of the bases of one choice at
most. -/
theorem Bases.Proven.not_isPower_both (hG : G.PrimeOrder) {bases : Bases G} (hb : bases.Proven)
    {request : G.Element × G.Element} (hg : G.isMember request.1 = true)
    (hh : G.isMember request.2 = true) (hne : request.1 ≠ G.identity) :
    ¬ (IsPower (bases.choose false) request ∧ IsPower (bases.choose true) request) := by
  have := hG.fact
  obtain ⟨y, α, hy, hg1, hh0, hh1⟩ := hb.exists_logarithms hG
  obtain ⟨g, h⟩ := request
  obtain ⟨a, rfl⟩ := hG.exists_antilog hg
  obtain ⟨b, rfl⟩ := hG.exists_antilog hh
  rintro ⟨hfalse, htrue⟩
  -- the bases of either choice, as logarithms
  have hzero : bases.choose false = (G.antilog 1, G.antilog α) := by
    rw [← hG.generator_eq_antilog, ← hh0]; rfl
  have hone : bases.choose true = (G.antilog y, G.antilog (y * (α + 1))) := by
    rw [← hg1, ← hh1]; rfl
  rw [hzero, isPower_antilog_iff hG one_ne_zero] at hfalse
  rw [hone, isPower_antilog_iff hG hy] at htrue
  -- `b = α * a` and `b = (α + 1) * a` leave only `a = 0`
  have hmul : y * a = 0 := by linear_combination y * hfalse - htrue
  rcases mul_eq_zero.1 hmul with h0 | h0
  · exact hy h0
  · exact hne (by rw [h0, hG.identity_eq_antilog])

end TwoParty.Transfer
