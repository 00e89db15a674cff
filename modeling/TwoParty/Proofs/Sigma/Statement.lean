/-
The maps of a proof in terms of logarithms. A valid statement is a list of pairs `(b, y)` of
logarithms, one for each equation; a witness is a `w` with `b * w = y` in every place, and a
transcript is accepted if `b * z = a + y * e` in every place.
-/
import TwoParty.Sigma.Statement
import TwoParty.Proofs.Group.PrimeOrder

namespace TwoParty

open CyclicGroup

variable {G : CyclicGroup} {k : Nat}

/-! ## Place by place -/

namespace Statement

variable {S : Statement G k}

theorem holds_iff {w : G.Scalar} :
    S.holds w = true ↔ ∀ (i : Nat) (_ : i < k), G.exponentiate S[i].base w = S[i].image := by
  unfold holds
  rw [Vector.all_eq_true]
  simp only [decide_eq_true_iff]

theorem holds_logarithm_iff {h : G.Element} {w : G.Scalar} :
    (logarithm G h).holds w = true ↔ G.exponentiateGenerator w = h := by
  rw [holds_iff]
  constructor
  · intro hw
    exact hw 0 (by omega)
  · intro hw i hi
    obtain rfl : i = 0 := by omega
    exact hw

theorem isValid_iff :
    S.isValid = true ↔
      ∀ (i : Nat) (_ : i < k), G.isMember S[i].base = true ∧ G.isMember S[i].image = true := by
  unfold isValid
  rw [Vector.all_eq_true]
  simp only [Bool.and_eq_true]

theorem check_iff {a : Announcement G k} {e z : G.Scalar} :
    S.check a e z = true ↔ ∀ (i : Nat) (_ : i < k),
      G.exponentiate S[i].base z = G.multiply a[i] (G.exponentiate S[i].image e) := by
  unfold check
  rw [Vector.all_eq_true]
  simp only [Vector.getElem_zip, decide_eq_true_iff]

/-- All elements of the statement are members, and `z` answers the challenge `e` in every
equation. -/
def AnsweredBy (S : Statement G k) (a : Announcement G k) (e z : G.Scalar) : Prop :=
  ∀ (i : Nat) (_ : i < k), G.isMember S[i].base = true ∧ G.isMember S[i].image = true ∧
    G.exponentiate S[i].base z = G.multiply a[i] (G.exponentiate S[i].image e)

theorem answeredBy_iff {a : Announcement G k} {e z : G.Scalar} :
    (S.isValid && S.check a e z) = true ↔ S.AnsweredBy a e z := by
  rw [Bool.and_eq_true, isValid_iff, check_iff]
  constructor
  · rintro ⟨hvalid, hcheck⟩ i hi
    exact ⟨(hvalid i hi).1, (hvalid i hi).2, hcheck i hi⟩
  · intro h
    exact ⟨fun i hi => ⟨(h i hi).1, (h i hi).2.1⟩, fun i hi => (h i hi).2.2⟩

end Statement

theorem Announcement.isValid_iff {a : Announcement G k} :
    a.isValid = true ↔ ∀ (i : Nat) (_ : i < k), G.isMember a[i] = true :=
  Vector.all_eq_true

/-! ## Logarithms -/

namespace Statement

variable {S : Statement G k} (hG : G.PrimeOrder)
include hG

theorem isValid_logarithm {h : G.Element} (hh : G.isMember h = true) :
    (logarithm G h).isValid = true := by
  simp [isValid, logarithm, hG.isMember_generator, hh]

theorem isValid_diffieHellman {h u v : G.Element} (hh : G.isMember h = true)
    (hu : G.isMember u = true) (hv : G.isMember v = true) :
    (diffieHellman G h u v).isValid = true := by
  simp [isValid, diffieHellman, hG.isMember_generator, hh, hu, hv]

/-- The logarithms of the base and the image of an equation. -/
theorem exists_logarithms (hS : S.isValid = true) (i : Nat) (hi : i < k) :
    ∃ b y, S[i].base = G.antilog b ∧ S[i].image = G.antilog y := by
  obtain ⟨hb, hy⟩ := isValid_iff.1 hS i hi
  obtain ⟨b, hb⟩ := hG.exists_antilog hb
  obtain ⟨y, hy⟩ := hG.exists_antilog hy
  exact ⟨b, y, hb.symm, hy.symm⟩

theorem isValid_commit (hS : S.isValid = true) (r : G.Scalar) : (S.commit r).isValid = true := by
  rw [Announcement.isValid_iff]
  intro i hi
  unfold commit
  rw [Vector.getElem_map]
  exact hG.isMember_exponentiate (isValid_iff.1 hS i hi).1 r

/-- The honest response fits every challenge. -/
theorem check_respond (hS : S.isValid = true) {w : G.Scalar} (hw : S.holds w = true)
    (r e : G.Scalar) : S.check (S.commit r) e (G.add r (G.mul e w)) = true := by
  rw [check_iff]
  intro i hi
  obtain ⟨b, y, hb, hy⟩ := exists_logarithms hG hS i hi
  have hwi := holds_iff.1 hw i hi
  rw [hb, hy, hG.exponentiate_antilog, hG.antilog_inj] at hwi
  unfold commit
  rw [Vector.getElem_map, hb, hy, hG.exponentiate_antilog, hG.exponentiate_antilog,
    hG.exponentiate_antilog, hG.multiply_antilog, toZMod_add, toZMod_mul, ← hwi]
  congr 1
  ring

/-- Two responses that fit one announcement: their difference answers the difference of the
challenges. -/
theorem mul_sub_eq_of_check {a : Announcement G k} (ha : a.isValid = true) {e e' z z' : G.Scalar}
    (h : S.check a e z = true) (h' : S.check a e' z' = true)
    {i : Nat} (hi : i < k) {b y : ZMod G.order} (hb : S[i].base = G.antilog b)
    (hy : S[i].image = G.antilog y) :
    b * (toZMod z - toZMod z') = y * (toZMod e - toZMod e') := by
  -- both equations speak of one logarithm of the announcement
  obtain ⟨α, hα⟩ := hG.exists_antilog (Announcement.isValid_iff.1 ha i hi)
  have h1 := check_iff.1 h i hi
  have h2 := check_iff.1 h' i hi
  rw [hb, hy, ← hα, hG.exponentiate_antilog, hG.exponentiate_antilog, hG.multiply_antilog,
    hG.antilog_inj] at h1 h2
  rw [mul_sub, mul_sub, h1, h2]
  ring

end Statement

end TwoParty
