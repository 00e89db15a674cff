/-
When an honest prover is accused. Before it announces, a prover checks that its witness satisfies
the equations; a verifier checks that what it receives belongs to the group. Of a base outside the
group some powers are members and others are not, so the equations can hold where the announcement
is none that a verifier admits, and then the verifier takes an honest prover for a cheat. With bases
in the group that does not happen.
-/
import TwoParty.Proofs.Program.Endings
import TwoParty.Proofs.Sigma.Interactive
import TwoParty.Proofs.Sigma.Verifier

namespace TwoParty

open CyclicGroup Pedersen

variable {G : CyclicGroup} {k : Nat}

/-! ## Elements that are read as what they are -/

/-- The encoding of the element is read as nothing else, and its length is written in eight
bytes. -/
def CyclicGroup.ReadsBack (G : CyclicGroup) (a : G.Element) : Prop :=
  (G.encode a).length < 2 ^ 64 ∧ ∀ b, G.decode? (G.encode a) = some b → b = a

theorem CyclicGroup.PrimeOrder.readsBack (hG : G.PrimeOrder) {a : G.Element}
    (ha : G.isMember a = true) : G.ReadsBack a := by
  refine ⟨hG.length_encode_lt a ha, fun b hb => ?_⟩
  rw [hG.decode?_encode a ha] at hb
  exact (Option.some.inj hb).symm

/-- Every residue is read as what it is, whether it is a member or not. -/
theorem Residues.readsBack (R : Residues) (a : R.group.Element) : R.group.ReadsBack a := by
  refine ⟨R.compact.length_encode_lt a, fun b hb => ?_⟩
  have hlt : Fin.val (n := R.modulus) a < Nat.pow 256 8 := by
    have hlt' : Fin.val (n := R.modulus) a < R.modulus := Fin.isLt _
    have := R.modulus_lt
    simp only [limit, Nat.pow_eq, modulus] at *
    omega
  have hread : R.group.decode? (R.group.encode a) = R.element? (Fin.val (n := R.modulus) a) := by
    show (if (Bytes.toBigEndian 8 (Fin.val (n := R.modulus) a)).length = 8 then
      R.element? (Bytes.toBigEndian 8 (Fin.val (n := R.modulus) a)).bigEndian else none) = _
    rw [if_pos (Bytes.length_toBigEndian _ _), Bytes.bigEndian_toBigEndian hlt]
  rw [hread] at hb
  unfold element? at hb
  split at hb
  · cases hb; rfl
  · cases hb

/-! ## Announcements -/

namespace AnnouncementMessage

variable {a : Announcement G k}

theorem fits_encode_of_readsBack (hk : k < 2 ^ 64)
    (ha : ∀ (i : Nat) (_ : i < k), G.ReadsBack a[i]) : Wire.Fits (encode a) := by
  refine ⟨by simpa [encode] using hk, fun bytes hbytes => ?_⟩
  obtain ⟨x, hx, rfl⟩ := List.mem_map.1 hbytes
  obtain ⟨i, hi, rfl⟩ := List.mem_iff_getElem.1 hx
  rw [Vector.length_toList] at hi
  rw [Vector.getElem_toList]
  exact (ha i hi).1

/-- An announcement with an element outside the group is refused, and the element is named. -/
theorem decode_encode_of_outsider (ha : ∀ (i : Nat) (_ : i < k), G.ReadsBack a[i])
    (hvalid : a.isValid = false) : decode G k (encode a) = .error (.notMember "a") := by
  obtain ⟨i, hi, hout⟩ : ∃ (i : Nat) (_ : i < k), G.isMember a[i] = false := by
    by_contra hall
    push Not at hall
    simp only [ne_eq, Bool.not_eq_false] at hall
    rw [Announcement.isValid_iff.2 hall] at hvalid
    cases hvalid
  refine decode_eq_error_iff.2 (.inr ⟨by simp [encode], ⟨G.encode a[i], ?_, ?_⟩, rfl⟩)
  · exact List.mem_map.2 ⟨a[i], by simp, rfl⟩
  · rintro b ⟨hb, hmember⟩
    rw [(ha i hi).2 b hb, hout] at hmember
    cases hmember

end AnnouncementMessage

namespace Statement

variable {S : Statement G k}

/-- The powers of all bases are read as what they are. -/
def Readable (S : Statement G k) : Prop :=
  ∀ (i : Nat) (_ : i < k) (e : G.Scalar), G.ReadsBack (G.exponentiate S[i].base e)

/-- A statement over residues is readable, whatever its bases. -/
theorem readable_of_residues {R : Residues} (S : Statement R.group k) : S.Readable :=
  fun _ _ _ => R.readsBack _

/-- So is a statement of which all bases are members, over any group of prime order. -/
theorem readable_of_bases (hG : G.PrimeOrder)
    (hS : ∀ (i : Nat) (_ : i < k), G.isMember S[i].base = true) : S.Readable :=
  fun i hi e => hG.readsBack (hG.isMember_exponentiate (hS i hi) e)

theorem Readable.commit (hS : S.Readable) (r : G.Scalar) (i : Nat) (hi : i < k) :
    G.ReadsBack (S.commit r)[i] := by
  unfold Statement.commit
  rw [Vector.getElem_map]
  exact hS i hi r

/-- Bases in the group leave nothing outside it. -/
theorem isValid_commit_of_bases (hG : G.PrimeOrder)
    (hS : ∀ (i : Nat) (_ : i < k), G.isMember S[i].base = true) (r : G.Scalar) :
    (S.commit r).isValid = true := by
  rw [Announcement.isValid_iff]
  intro i hi
  unfold commit
  rw [Vector.getElem_map]
  exact hG.isMember_exponentiate (hS i hi) r

/-- The result is an accusation exactly if the announcement for `r` has an element outside the
group. -/
def Blames (S : Statement G k) (r : G.Scalar) (result : Except ProtocolError Bool) : Prop :=
  ∀ cause, result = .error (.cheating cause) ↔
    (S.commit r).isValid = false ∧ cause = .notMember "a"

theorem blames_of_outsider {r : G.Scalar} (h : (S.commit r).isValid = false) :
    S.Blames r (.error (.cheating (.notMember "a"))) := by
  intro cause
  simp [h, eq_comm]

theorem blames_of_valid {r : G.Scalar} {result : Except ProtocolError Bool}
    (h : (S.commit r).isValid = true) (hno : ∀ cause, result ≠ .error (.cheating cause)) :
    S.Blames r result := by
  intro cause
  simp [h, hno cause]

/-- With bases in the group there is nothing to accuse of. -/
theorem Blames.ne_cheating (hG : G.PrimeOrder)
    (hS : ∀ (i : Nat) (_ : i < k), G.isMember S[i].base = true) {r : G.Scalar}
    {result : Except ProtocolError Bool} (h : S.Blames r result) (cause : Cheating) :
    result ≠ .error (.cheating cause) := by
  intro hresult
  obtain ⟨hout, -⟩ := (h cause).1 hresult
  rw [isValid_commit_of_bases hG hS r] at hout
  cases hout

end Statement

/-! ## Runs of both parties -/

namespace SigmaRole

theorem respond_eq_error {role : SigmaRole G} (state : ProverState G) {e : Challenge}
    (he : e.bytes.length ≠ role.soundness.challengeLength) :
    ∃ cause, role.respond state e = .error cause := by
  unfold respond Challenge.check
  rw [if_neg he]
  exact ⟨_, rfl⟩

theorem yields_accuse {α : Type} (span : Option String) (cause : Cheating) (s : Source) :
    (Attempt.accuse span cause : Attempt α).run.Yields s (.error (.cheating cause), s) :=
  fun _ _ => ⟨[.accusation span cause], rfl⟩

section Runs

variable (hG : G.PrimeOrder) (hk : k < 2 ^ 64) {prover verifier : SigmaRole G}
  {S : Statement G k} (hS : S.Readable) {w : G.Scalar} (hw : S.holds w = true)
include hG hk hS hw

theorem concludes_prove (s t : Source) :
    (prover.prove S w).Concludes (verifier.receiveProof S) s t (G.nextScalar s = none)
      fun result => ∃ r s', G.nextScalar s = some (r, s') ∧ S.Blames r result := by
  unfold prove announce receiveProof
  rw [if_pos hw]
  simp only [bind_assoc, pure_bind]
  refine .scalar_left id fun r s' hr => ?_
  refine .left (.note _ s') ?_
  refine .send (AnnouncementMessage.fits_encode_of_readsBack hk (hS.commit r)) ?_
  rcases hvalid : (S.commit r).isValid with _ | _
  · simp only [AnnouncementMessage.decode_encode_of_outsider (hS.commit r) hvalid]
    exact .right_gone (yields_accuse _ _ t) ⟨r, s', hr, Statement.blames_of_outsider hvalid⟩
  · have hblames {result : Except ProtocolError Bool}
        (hno : ∀ cause, result ≠ .error (.cheating cause)) :
        ∃ r s', G.nextScalar s = some (r, s') ∧ S.Blames r result :=
      ⟨r, s', hr, Statement.blames_of_valid hvalid hno⟩
    simp only [AnnouncementMessage.decode_encode hG hvalid, Attempt.judge_ok, pure_bind]
    refine .right (yields_challenge verifier t) ?_
    refine .receive (Challenge.fits hG (length_challengeOf verifier t)) ?_
    by_cases he : (verifier.challengeOf t).bytes.length = prover.soundness.challengeLength
    · simp only [respond_eq he]
      have hz : ResponseMessage.decode G (.encode
          (G.add r (G.mul ((verifier.challengeOf t).scalar G) w))) =
            .ok (G.add r (G.mul ((verifier.challengeOf t).scalar G) w)) :=
        decodeReceivedScalar_encodeScalar _ _
      refine .send (hG.fits_scalar _) ?_
      simp only [hz, Attempt.judge_ok, pure_bind]
      exact .done (Attempt.Yields.note _ s') (yields_verify verifier S _ _)
        (hblames (by rintro _ ⟨⟩))
    · -- the parties disagree about the length of challenges, and the prover gives up
      obtain ⟨cause, hcause⟩ := respond_eq_error ⟨r, w⟩ he
      simp only [hcause]
      exact .left_gone (fun _ _ => ⟨[_], rfl⟩) (hblames (by rintro _ ⟨⟩))

theorem concludes_proveKnowledge (s t : Source) :
    (prover.proveKnowledge S w).Concludes (verifier.receiveKnowledge S) s t
      (proverDraws G s = none ∨ verifier.openerOf? t = none)
      fun result => ∃ r s', G.nextScalar s = some (r, s') ∧ S.Blames r result := by
  have he := length_challengeOf verifier t
  unfold proveKnowledge receiveKnowledge announce
  rw [if_pos hw]
  simp only [bind_assoc, pure_bind]
  refine .scalar_left (fun hr => .inl (by simp [proverDraws, hr])) fun r s₁ hr => ?_
  refine .left (.note _ s₁) ?_
  rcases ht : G.nextScalar s₁ with _ | ⟨trapdoor, s₂⟩
  · rw [Receiver.join_eq]
    simp only [bind_assoc]
    refine .scalar_left (fun _ => .inl (by simp [proverDraws, hr, ht])) fun _ _ hsome => ?_
    cases ht.symm.trans hsome
  have hm := isMember_keyOf hG trapdoor
  refine .meet (join_meets hG prover verifier ht) ?_
  refine .right (yields_challenge verifier t) ?_
  simp only [Challenge.valueOfBytes_eq he, Attempt.require_ok, pure_bind]
  rcases ho : G.nextScalar (t.advance verifier.soundness.challengeLength) with _ | ⟨opener, t'⟩
  · rw [Committer.runIn_commit _ _ _ rfl]
    simp only [bind_assoc]
    refine .scalar_right (fun _ => .inr (by simp [openerOf?, ho])) fun _ _ hsome => ?_
    cases ho.symm.trans hsome
  refine .meet (commit_meets hG (.joined prover trapdoor) (.joined verifier trapdoor)
    challengeSession ((verifier.challengeOf t).scalar G) hG.isMember_generator hm rfl rfl ho) ?_
  simp only [if_pos]
  refine .send (AnnouncementMessage.fits_encode_of_readsBack hk (hS.commit r)) ?_
  rcases hvalid : (S.commit r).isValid with _ | _
  · simp only [AnnouncementMessage.decode_encode_of_outsider (hS.commit r) hvalid]
    rw [Receiver.receiveOpening_eq _ _ (Receiver.find?_opened _ _ _)]
    simp only [bind_assoc]
    exact .right_gone (yields_accuse _ _ t') ⟨r, s₁, hr, Statement.blames_of_outsider hvalid⟩
  · have hblames {result : Except ProtocolError Bool}
        (hno : ∀ cause, result ≠ .error (.cheating cause)) :
        ∃ r s', G.nextScalar s = some (r, s') ∧ S.Blames r result :=
      ⟨r, s₁, hr, Statement.blames_of_valid hvalid hno⟩
    simp only [AnnouncementMessage.decode_encode hG hvalid, Attempt.judge_ok, pure_bind]
    refine .meet (decommit_opened_meets hG (.joined prover trapdoor) (.joined verifier trapdoor)
      rfl challengeSession ((verifier.challengeOf t).scalar G) opener s₂ t') ?_
    rcases hread : Challenge.ofScalarEncoding prover.soundness
        (G.encodeScalar ((verifier.challengeOf t).scalar G)) with cause | e
    · -- the challenge is too long for the prover, which gives up
      exact .left_gone (yields_accuse _ _ s₂) (hblames (by rintro _ ⟨⟩))
    · obtain ⟨hlen, -⟩ := Challenge.ofScalarEncoding_eq_ok_iff.1 hread
      simp only [Attempt.judge_ok, pure_bind, respond_eq hlen]
      have hfits : Wire.Fits (KnowledgeMessage.mk (.encode (G.add r (G.mul (e.scalar G) w)))
          (G.encodeScalar trapdoor)) := ⟨hG.fits_scalar _, hG.fits_scalar _⟩
      have hz : ResponseMessage.decode G (.encode (G.add r (G.mul (e.scalar G) w))) =
          .ok (G.add r (G.mul (e.scalar G) w)) := decodeReceivedScalar_encodeScalar _ _
      have hkey : ((Committer.joined verifier trapdoor).opened challengeSession
          ((verifier.challengeOf t).scalar G) opener).key.validatesTrapdoor trapdoor = true :=
        validatesTrapdoor_keyOf trapdoor
      refine .send hfits ?_
      simp only [Receiver.opened, Receiver.joined, hz, decodeReceivedScalar_encodeScalar,
        Attempt.judge_ok, pure_bind, hkey, if_true]
      exact .done (Attempt.Yields.note _ s₂) (yields_verify verifier S _ _)
        (hblames (by rintro _ ⟨⟩))

end Runs

/-- With bases in the group an honest verifier never accuses an honest prover, whatever both draw
and also where they do not agree about the length of challenges. -/
theorem honest_prover_unaccused (hG : G.PrimeOrder) (hk : k < 2 ^ 64)
    (prover verifier : SigmaRole G) {S : Statement G k}
    (hS : ∀ (i : Nat) (_ : i < k), G.isMember S[i].base = true) {w : G.Scalar}
    (hw : S.holds w = true) (s t : Source) :
    (prover.prove S w).Concludes (verifier.receiveProof S) s t (G.nextScalar s = none)
        (fun result => ∀ cause, result ≠ .error (.cheating cause)) ∧
      (prover.proveKnowledge S w).Concludes (verifier.receiveKnowledge S) s t
        (proverDraws G s = none ∨ verifier.openerOf? t = none)
        (fun result => ∀ cause, result ≠ .error (.cheating cause)) := by
  have hreadable := Statement.readable_of_bases hG hS
  have hno : ∀ result : Except ProtocolError Bool,
      (∃ r s', G.nextScalar s = some (r, s') ∧ S.Blames r result) →
        ∀ cause, result ≠ .error (.cheating cause) :=
    fun _ ⟨_, _, _, hblames⟩ => hblames.ne_cheating hG hS
  exact ⟨(concludes_prove hG hk hreadable hw s t).mono hno,
    (concludes_proveKnowledge hG hk hreadable hw s t).mono hno⟩

/-- For what an honest prover is accused. A witness that does not satisfy the statement is refused
before anything is done. Otherwise, whatever both parties draw, an honest verifier accuses the
prover exactly if the announcement has an element outside the group; with bases in the group none
has. -/
theorem honest_prover_accused_iff (hG : G.PrimeOrder) (hk : k < 2 ^ 64)
    (prover verifier : SigmaRole G) (S : Statement G k) (hS : S.Readable) (w : G.Scalar) :
    (S.holds w = false → ∀ p : Endpoint,
      (prover.prove S w).run.run p = some ⟨.error (.input .witnessMismatch), p, []⟩ ∧
      (prover.proveKnowledge S w).run.run p = some ⟨.error (.input .witnessMismatch), p, []⟩) ∧
    (S.holds w = true → ∀ s t : Source,
      (prover.prove S w).Concludes (verifier.receiveProof S) s t (G.nextScalar s = none)
        (fun result => ∃ r s', G.nextScalar s = some (r, s') ∧ S.Blames r result) ∧
      (prover.proveKnowledge S w).Concludes (verifier.receiveKnowledge S) s t
        (proverDraws G s = none ∨ verifier.openerOf? t = none)
        (fun result => ∃ r s', G.nextScalar s = some (r, s') ∧ S.Blames r result)) ∧
    ((∀ (i : Nat) (_ : i < k), G.isMember S[i].base = true) →
      ∀ r, (S.commit r).isValid = true) := by
  refine ⟨fun hw p => ?_, fun hw s t => ?_, Statement.isValid_commit_of_bases hG⟩
  · unfold prove proveKnowledge announce
    rw [if_neg (by simp [hw])]
    exact ⟨rfl, rfl⟩
  · exact ⟨concludes_prove hG hk hS hw s t, concludes_proveKnowledge hG hk hS hw s t⟩

/-- The tuple with minus one as its second base, which zero satisfies as a witness. -/
def minusOne : Statement Residues.order281.group 2 :=
  .diffieHellman _ (Residues.order281.residue 562) (identity _) (identity _)

theorem honest_prover_accused_iff_minusOne :
    minusOne.holds (zero _) = true ∧
      (minusOne.commit (scalar _ 257)).isValid = false ∧
      (order281.prove minusOne (zero _)).Concludes (order281.receiveProof minusOne) (.constant 1)
        (.constant 0) False (fun result => result = .error (.cheating (.notMember "a"))) := by
  have hholds : minusOne.holds (zero _) = true := by decide +kernel
  have hout : (minusOne.commit (scalar _ 257)).isValid = false := by decide +kernel
  obtain ⟨-, hrun, -⟩ := honest_prover_accused_iff (k := 2) Residues.primeOrder_order281 (by decide)
    order281 order281 minusOne (Statement.readable_of_residues _) (zero _)
  obtain ⟨⟨hendless, hresult⟩, -⟩ := hrun hholds (.constant 1) (.constant 0)
  have hdraw : Residues.order281.group.nextScalar (.constant 1) = some (scalar _ 257, _) := rfl
  refine ⟨hholds, hout, ⟨fun hnone => ?_, fun o hsome => ?_⟩⟩
  · cases hdraw.symm.trans (hendless hnone)
  · obtain ⟨r, s', hr, hblames⟩ := hresult o hsome
    cases hdraw.symm.trans hr
    exact (hblames _).2 ⟨hout, rfl⟩

/-- The prover's check passes, the prover announces, and an honest verifier accuses it. -/
theorem honest_prover_accused_minusOne :
    ((order281.announce minusOne (zero _)).run.run (.fresh (.constant 1))).map (·.result) =
        some (.ok (⟨scalar _ 257, zero _⟩, minusOne.commit (scalar _ 257))) ∧
      (Program.pair (order281.prove minusOne (zero _)).run (order281.receiveProof minusOne).run
        (.fresh (.constant 1)) (.fresh (.constant 0))).map (·.right.result) =
          some (.error (.cheating (.notMember "a"))) ∧
      (Program.pair (order281.proveKnowledge minusOne (zero _)).run
        (order281.receiveKnowledge minusOne).run
        (.fresh (.constant 1)) (.fresh (.constant 0))).map (·.right.result) =
          some (.error (.cheating (.notMember "a"))) := by
  have hholds : minusOne.holds (zero _) = true := by decide +kernel
  refine ⟨?_, ?_, ?_⟩
  · unfold announce
    rw [if_pos hholds]
    rfl
  · decide +kernel
  · decide +kernel

end SigmaRole

end TwoParty
