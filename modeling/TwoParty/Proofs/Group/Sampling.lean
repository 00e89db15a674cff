/-
Random exponents and the sources they are drawn from. `Source.after` says where a source stands
once all draws of a list have ended; it is the form in which a run's need of randomness is stated
beforehand. Programs that draw exponents end wherever their draws do.
-/
import TwoParty.Group.Sampling
import TwoParty.Sigma.Challenge
import TwoParty.Proofs.Group.PrimeOrder
import TwoParty.Proofs.Program.Exchange

namespace TwoParty

open CyclicGroup

/-! ## Lists of draws -/

namespace Source

/-- The source after the draws of a list, each given by the length of its blocks and the condition
on them; none if one of the draws does not end. -/
def after (source : Source) : List (Nat × (Bytes → Bool)) → Option Source
  | [] => some source
  | draw :: draws => (source.draw draw.1 draw.2).bind fun (_, source) => source.after draws

theorem after_cons_isSome {source : Source} {draw : Nat × (Bytes → Bool)}
    {draws : List (Nat × (Bytes → Bool))} (h : (source.after (draw :: draws)).isSome = true) :
    ∃ block s, source.draw draw.1 draw.2 = some (block, s) ∧ (s.after draws).isSome = true := by
  unfold after at h
  rcases hd : source.draw draw.1 draw.2 with _ | ⟨block, s⟩
  · rw [hd] at h; cases h
  · rw [hd] at h; exact ⟨block, s, rfl, h⟩

theorem search_accept {length : Nat} {accept : Bytes → Bool} {tries : Nat} {source s : Source}
    {block : Bytes} (h : search length accept tries source = some (block, s)) :
    accept block = true := by
  induction tries generalizing source with
  | zero => cases h
  | succ tries ih =>
    simp only [search] at h
    split at h
    · rename_i hacc; cases h; exact hacc
    · exact ih h

/-- A draw ends with a block that it accepts. -/
theorem draw_accept {source s : Source} {length : Nat} {accept : Bytes → Bool} {block : Bytes}
    (h : source.draw length accept = some (block, s)) : accept block = true :=
  search_accept h

theorem length_of_search {length : Nat} {accept : Bytes → Bool} {tries : Nat} {source s : Source}
    {block : Bytes} (h : search length accept tries source = some (block, s)) :
    block.length = length := by
  induction tries generalizing source with
  | zero => cases h
  | succ tries ih =>
    simp only [search] at h
    split at h
    · cases h; simp [peek]
    · exact ih h

theorem length_of_draw {source s : Source} {length : Nat} {accept : Bytes → Bool} {block : Bytes}
    (h : source.draw length accept = some (block, s)) : block.length = length :=
  length_of_search h

@[simp] theorem draw_true (source : Source) (length : Nat) :
    source.draw length (fun _ => true) = some (source.peek length, source.advance length) := rfl

@[simp] theorem length_peek (source : Source) (length : Nat) :
    (source.peek length).length = length := by
  simp [peek]

/-- A source that repeats one byte. -/
def constant (byte : UInt8) : Source := ⟨fun _ => byte, 0, 0⟩

end Source

/-! ## Exponents -/

namespace CyclicGroup

variable (G : CyclicGroup)

/-- The draw of an exponent. -/
def scalarDraw : Nat × (Bytes → Bool) :=
  (G.candidateWidth, fun block => G.candidate block < G.order)

/-- The draw of an exponent other than zero. -/
def nonzeroDraw : Nat × (Bytes → Bool) :=
  (G.candidateWidth, fun block => G.candidate block < G.order && G.candidate block != 0)

/-- The exponent that the next accepted block of a source proposes, and the source after it. -/
def nextAccepted (accept : Bytes → Bool) (source : Source) : Option (G.Scalar × Source) :=
  (source.draw G.candidateWidth accept).map fun (block, s) => (G.scalar (G.candidate block), s)

/-- The random exponent that a source gives next, and the source after it. -/
def nextScalar (source : Source) : Option (G.Scalar × Source) :=
  G.nextAccepted G.scalarDraw.2 source

/-- The random exponent other than zero that a source gives next, and the source after it. -/
def nextNonzeroScalar (source : Source) : Option (G.Scalar × Source) :=
  G.nextAccepted G.nonzeroDraw.2 source

variable {G}

section Accepted

variable {accept : Bytes → Bool} {source s : Source} {x : G.Scalar}
  {draws : List (Nat × (Bytes → Bool))}

theorem nextAccepted_of_after
    (h : (source.after ((G.candidateWidth, accept) :: draws)).isSome = true) :
    ∃ x s, G.nextAccepted accept source = some (x, s) ∧ (s.after draws).isSome = true := by
  obtain ⟨block, s, hd, hs⟩ := Source.after_cons_isSome h
  exact ⟨_, s, by unfold nextAccepted; rw [hd]; rfl, hs⟩

theorem nextScalar_of_after (h : (source.after (G.scalarDraw :: draws)).isSome = true) :
    ∃ x s, G.nextScalar source = some (x, s) ∧ (s.after draws).isSome = true :=
  nextAccepted_of_after h

theorem nextNonzeroScalar_of_after (h : (source.after (G.nonzeroDraw :: draws)).isSome = true) :
    ∃ x s, G.nextNonzeroScalar source = some (x, s) ∧ (s.after draws).isSome = true :=
  nextAccepted_of_after h

/-- The exponent is proposed by a block that was accepted. -/
theorem exists_candidate_of_nextAccepted (h : G.nextAccepted accept source = some (x, s)) :
    ∃ block, accept block = true ∧ x = G.scalar (G.candidate block) := by
  obtain ⟨⟨block, s⟩, hd, heq⟩ := Option.map_eq_some_iff.1 h
  cases heq
  exact ⟨block, Source.draw_accept hd, rfl⟩

theorem toZMod_ne_zero_of_nextNonzeroScalar (h : G.nextNonzeroScalar source = some (x, s)) :
    toZMod x ≠ 0 := by
  obtain ⟨block, haccept, rfl⟩ := exists_candidate_of_nextAccepted h
  have hacc : (decide (G.candidate block < G.order) && G.candidate block != 0) = true := haccept
  simp only [Bool.and_eq_true, decide_eq_true_iff, bne_iff_ne] at hacc
  -- an accepted candidate is below the order, so it is its own exponent
  rw [← toZMod_zero, ne_eq, toZMod_inj]
  intro h0
  have := congrArg Fin.val h0
  simp only [scalar, zero, Nat.mod_eq_of_lt hacc.1] at this
  exact hacc.2 this

/-- Drawing an exponent takes it from the source and does nothing else. -/
theorem run_sampleScalar_bind {α : Type} (f : G.Scalar → Program α) (e : Endpoint) :
    ((G.sampleScalar accept).bind f).run e =
      (G.nextAccepted accept e.source).bind fun (x, source) => (f x).run { e with source } := by
  show (Program.draw G.candidateWidth accept fun block =>
    f (G.scalar (G.candidate block))).run e = _
  unfold nextAccepted
  rw [Program.run]
  cases e.source.draw G.candidateWidth accept <;> rfl

theorem run_randomScalar_bind {α : Type} (f : G.Scalar → Program α) (e : Endpoint) :
    (G.randomScalar.bind f).run e =
      (G.nextScalar e.source).bind fun (x, source) => (f x).run { e with source } :=
  run_sampleScalar_bind f e

theorem run_randomNonzeroScalar_bind {α : Type} (f : G.Scalar → Program α) (e : Endpoint) :
    (G.randomNonzeroScalar.bind f).run e =
      (G.nextNonzeroScalar e.source).bind fun (x, source) => (f x).run { e with source } :=
  run_sampleScalar_bind f e

theorem yields_sampleScalar (h : G.nextAccepted accept source = some (x, s)) :
    (G.sampleScalar accept).Yields source (x, s) := by
  obtain ⟨⟨block, s⟩, hd, heq⟩ := Option.map_eq_some_iff.1 h
  cases heq
  exact .draw hd (.done _ _)

theorem yields_randomScalar (h : G.nextScalar source = some (x, s)) :
    G.randomScalar.Yields source (x, s) :=
  yields_sampleScalar h

theorem yields_randomNonzeroScalar (h : G.nextNonzeroScalar source = some (x, s)) :
    G.randomNonzeroScalar.Yields source (x, s) :=
  yields_sampleScalar h

end Accepted

end CyclicGroup

/-! ## Challenges -/

/-- The draw of a challenge. -/
def Soundness.challengeDraw {order : Nat} (soundness : Soundness order) : Nat × (Bytes → Bool) :=
  (soundness.challengeLength, fun _ => true)

theorem Challenge.yields_random {order : Nat} (soundness : Soundness order) (source : Source) :
    (Challenge.random soundness).Yields source
      (⟨source.peek soundness.challengeLength⟩, source.advance soundness.challengeLength) :=
  .draw (Source.draw_true _ _) (.done _ _)

end TwoParty
