/-
What a trapdoor is worth. The openings of a commitment lie on a line whose slope is the trapdoor,
however the commitment was made: with every value goes one randomness, whoever knows the trapdoor
finds it from any other opening, and two openings to different values give the trapdoor away.
-/
import TwoParty.Proofs.Commitment.Openings

namespace TwoParty.Pedersen

open CyclicGroup

variable {G : CyclicGroup}

/-! ## Points of a line -/

/-- The randomness with which a commitment opens to `x'`, if with `r` it opens to `x`. -/
def equivocate (trapdoor x r x' : G.Scalar) : G.Scalar :=
  ofZMod (toZMod r + toZMod trapdoor * (toZMod x - toZMod x'))

/-- The trapdoor, from openings of one commitment to two values. -/
def extract (x r x' r' : G.Scalar) : G.Scalar :=
  ofZMod ((toZMod r - toZMod r') * (toZMod x' - toZMod x)⁻¹)

section Line

variable (hG : G.PrimeOrder)
include hG

/-- Every member of the group is a commitment to every value. -/
theorem exists_commitment_keyOf (trapdoor x : G.Scalar) {c : G.Element} (hc : G.isMember c = true) :
    ∃ r, (keyOf trapdoor).commitment x r = c := by
  obtain ⟨γ, rfl⟩ := hG.exists_antilog hc
  refine ⟨ofZMod (γ - toZMod trapdoor * toZMod x), ?_⟩
  unfold keyOf
  rw [exponentiateGenerator_eq_antilog, Key.commitment_antilog hG, toZMod_ofZMod, sub_add_cancel]

/-- Two openings are of one commitment exactly if one is had from the other. -/
theorem commitment_keyOf_eq_iff_equivocate (trapdoor x r x' r' : G.Scalar) :
    (keyOf trapdoor).commitment x' r' = (keyOf trapdoor).commitment x r ↔
      r' = equivocate trapdoor x r x' := by
  unfold keyOf
  rw [exponentiateGenerator_eq_antilog, Key.commitment_eq_commitment_iff hG, ← toZMod_inj]
  unfold equivocate
  rw [toZMod_ofZMod, mul_sub, ← eq_sub_iff_add_eq, add_sub_assoc]

/-- Openings of one commitment to two values give the trapdoor. -/
theorem extract_eq {trapdoor x r x' r' : G.Scalar} (hne : x ≠ x')
    (h : r' = equivocate trapdoor x r x') : extract x r x' r' = trapdoor := by
  have := hG.fact
  have hsub : toZMod x' - toZMod x ≠ 0 := by
    rw [ne_eq, sub_eq_zero, toZMod_inj]
    exact hne.symm
  have hline : toZMod r - toZMod r' = toZMod trapdoor * (toZMod x' - toZMod x) := by
    rw [h]
    unfold equivocate
    rw [toZMod_ofZMod]
    ring
  unfold extract
  rw [hline, mul_inv_cancel_right₀ hsub, ofZMod_toZMod]

end Line

/-! ## Accepted openings -/

namespace Receiver

variable {receiver : Receiver G} {id : SessionId} {c : G.Element}

/-- Some run on a frame with the opening ends with its value. -/
def Accepts (receiver : Receiver G) (id : SessionId) (x r : G.Scalar) : Prop :=
  ∃ p o, Conveys OpeningMessage.Writes p.inbox.head? (id, x, r) ∧
    ((receiveOpening id).runIn receiver).run.run p = some o ∧ o.result = .ok (x, receiver)

/-- What becomes of an opening depends on nothing but whether it is one of the commitment. -/
theorem ensures_conveyed_opening (hfind : receiver.commitments.find? id = some c) {x r : G.Scalar}
    {p : Endpoint} (hframe : Conveys OpeningMessage.Writes p.inbox.head? (id, x, r)) :
    ((receiveOpening id).runIn receiver).Ensures p False fun o =>
      (receiver.key.commitment x r = c → o.result = .ok (x, receiver)) ∧
        (receiver.key.commitment x r ≠ c →
          o.result = .error (.cheating (.openingMismatch id))) := by
  obtain ⟨frame, message, hhead, hread, hwrites⟩ := hframe
  have hheard : Attempt.heard (receiver.key.checkOpening id c) p.inbox.head? = _ :=
    Attempt.heard_eq hhead hread
  rw [Key.checkOpening_of_writes hwrites] at hheard
  rw [receiveOpening_eq _ _ hfind]
  refine .hear rfl (fun error herror => ?_) (fun y hy => ?_)
  · rw [hheard] at herror
    split at herror
    · cases herror
    · rename_i hne
      cases herror
      exact ⟨fun heq => absurd heq hne, fun _ => rfl⟩
  · rw [hheard] at hy
    split at hy
    · rename_i heq
      cases hy
      exact .note (.pure ⟨fun _ => rfl, fun hne => absurd heq hne⟩)
    · cases hy

/-- Every opening is written on some frame. -/
theorem exists_conveys (hG : G.PrimeOrder) (id : SessionId) (x r : G.Scalar) :
    ∃ p : Endpoint, Conveys OpeningMessage.Writes p.inbox.head? (id, x, r) := by
  have hfits : Wire.Fits (OpeningMessage.mk id (G.encodeScalar x) (G.encodeScalar r)) :=
    ⟨trivial, hG.fits_scalar x, hG.fits_scalar r⟩
  exact ⟨(Endpoint.fresh (.constant 0)).deliver [Wire.write (OpeningMessage.mk id _ _)], _, _, rfl,
    Wire.decode_write hfits, rfl, decodeScalar?_encodeScalar x, decodeScalar?_encodeScalar r⟩

theorem accepts_iff (hG : G.PrimeOrder) (hfind : receiver.commitments.find? id = some c)
    {x r : G.Scalar} : receiver.Accepts id x r ↔ receiver.key.commitment x r = c := by
  constructor
  · rintro ⟨p, o, hframe, hrun, ho⟩
    by_contra hne
    have herror := ((ensures_conveyed_opening hfind hframe).outcome hrun).2 hne
    rw [ho] at herror
    cases herror
  · intro heq
    obtain ⟨p, hframe⟩ := exists_conveys hG id x r
    obtain ⟨o, hrun, ho, -⟩ := (ensures_conveyed_opening hfind hframe).exists_outcome not_false
    exact ⟨p, o, hframe, hrun, ho heq⟩

/-- The openings that a receiver accepts for a commitment, whoever made it. Every run on a frame
with an opening ends in the same way; with each value one randomness is accepted; the trapdoor leads
from one accepted opening to all others, and two of them with different values lead to it. -/
theorem openings_collinear (hG : G.PrimeOrder) {receiver : Receiver G}
    (hkey : receiver.key = keyOf receiver.trapdoor) {id : SessionId} {c : G.Element}
    (hfind : receiver.commitments.find? id = some c) (hc : G.isMember c = true) :
    (∀ (p : Endpoint) x r, Conveys OpeningMessage.Writes p.inbox.head? (id, x, r) →
      ∃ o, ((receiveOpening id).runIn receiver).run.run p = some o ∧
        (receiver.Accepts id x r → o.result = .ok (x, receiver)) ∧
        (¬ receiver.Accepts id x r → o.result = .error (.cheating (.openingMismatch id)))) ∧
    (∀ x, ∃! r, receiver.Accepts id x r) ∧
    (∀ x r, receiver.Accepts id x r → ∀ x' r',
      (receiver.Accepts id x' r' ↔ r' = equivocate receiver.trapdoor x r x')) ∧
    ∀ x r x' r', receiver.Accepts id x r → receiver.Accepts id x' r' → x ≠ x' →
      receiver.trapdoor = extract x r x' r' ∧
        ∀ committer : Committer G, committer.key = receiver.key →
          committer.key.validatesTrapdoor (extract x r x' r') = true := by
  have haccepts {x r} : receiver.Accepts id x r ↔ (keyOf receiver.trapdoor).commitment x r = c := by
    rw [accepts_iff hG hfind, hkey]
  have hline {x r} (h : receiver.Accepts id x r) (x' r' : G.Scalar) :
      receiver.Accepts id x' r' ↔ r' = equivocate receiver.trapdoor x r x' := by
    rw [haccepts, ← haccepts.1 h]
    exact commitment_keyOf_eq_iff_equivocate hG _ x r x' r'
  refine ⟨fun p x r hframe => ?_, fun x => ?_, fun x r => hline, fun x r x' r' h h' hne => ?_⟩
  · obtain ⟨o, hrun, ho⟩ := (ensures_conveyed_opening hfind hframe).exists_outcome not_false
    have hopens := accepts_iff hG hfind (x := x) (r := r)
    exact ⟨o, hrun, fun h => ho.1 (hopens.1 h), fun h => ho.2 (mt hopens.2 h)⟩
  · obtain ⟨r, hr⟩ := exists_commitment_keyOf hG receiver.trapdoor x hc
    have h : receiver.Accepts id x r := haccepts.2 hr
    refine ⟨r, h, fun r' h' => ?_⟩
    -- on the line there is one point above a value
    rw [(hline h x r').1 h', ← (hline h x r).1 h]
  · have htrapdoor := extract_eq hG hne ((hline h x' r').1 h')
    refine ⟨htrapdoor.symm, fun committer hcommitter => ?_⟩
    rw [htrapdoor, hcommitter, hkey]
    exact validatesTrapdoor_keyOf _

/-- The receiver with the trapdoor three, which has stored a commitment to five. -/
def three : Receiver Residues.order281.group :=
  (joined .order281 (scalar _ 3)).opened 1 ((keyOf (scalar _ 3)).commitment (scalar _ 5)
    (scalar _ 11))

theorem openings_collinear_three :
    three.key = keyOf three.trapdoor ∧
      three.commitments.find? 1 = some ((keyOf (scalar _ 3)).commitment (scalar _ 5)
        (scalar _ 11)) ∧
      three.Accepts 1 (scalar _ 6) (scalar _ 8) ∧
      three.trapdoor = extract (scalar _ 5) (scalar _ 11) (scalar _ 6) (scalar _ 8) := by
  have hG := Residues.primeOrder_order281
  have hkey : three.key = keyOf three.trapdoor := rfl
  have hfind : three.commitments.find? 1 = some ((keyOf (scalar _ 3)).commitment (scalar _ 5)
      (scalar _ 11)) := rfl
  obtain ⟨-, -, hline, hextract⟩ := openings_collinear hG hkey hfind (by decide)
  have h5 : three.Accepts 1 (scalar _ 5) (scalar _ 11) := (accepts_iff hG hfind).2 rfl
  have h6 : three.Accepts 1 (scalar _ 6) (scalar _ 8) := (hline _ _ h5 _ _).2 (by decide)
  exact ⟨hkey, hfind, h6, (hextract _ _ _ _ h5 h6 (by decide)).1⟩

end Receiver

end TwoParty.Pedersen
