/-
Challenges as exponents. Two to the number of challenge bits is below the order, so a challenge of
the right length is the exponent that its bytes write, different challenges are different
exponents, and a challenge is read back from the encoding of its exponent byte for byte. Nothing
but an exponent of as many bits is read back, and a larger one is refused with its length. The
numbers of challenge bits that are admitted are exactly those for which this is so.
-/
import TwoParty.Sigma.Challenge
import TwoParty.Proofs.Group.Integers

namespace TwoParty

open CyclicGroup

namespace Soundness

variable {order : Nat} (soundness : Soundness order)

theorem pow_challengeLength : 256 ^ soundness.challengeLength = 2 ^ soundness.bits := by
  have h : 8 * soundness.challengeLength = soundness.bits := by
    have := soundness.aligned
    unfold challengeLength
    omega
  rw [← h, pow_mul]
  norm_num

theorem pow_challengeLength_lt : 256 ^ soundness.challengeLength < order := by
  rw [pow_challengeLength, ← Nat.pow_eq]
  exact soundness.below

/-! ## Admission of soundness parameters -/

theorem aligned_iff {bits : UInt32} :
    bits ≠ 0 ∧ bits % 8 = 0 ↔ 0 < bits.toNat ∧ 8 ∣ bits.toNat := by
  constructor
  · rintro ⟨hne, hmod⟩
    exact ⟨toNat_pos_of_ne_zero hne, Nat.dvd_of_mod_eq_zero (toNat_mod_of_aligned hmod)⟩
  · rintro ⟨hpos, hdvd⟩
    refine ⟨fun hzero => ?_, UInt32.toNat_inj.1 ?_⟩
    · rw [hzero] at hpos
      exact lt_irrefl 0 hpos
    · rw [UInt32.toNat_mod]
      exact Nat.mod_eq_zero_of_dvd hdvd

/-- Every number of bits meets one of three fates, by its alignment first. -/
theorem new?_cases (order : Nat) (bits : UInt32) :
    (¬ (0 < bits.toNat ∧ 8 ∣ bits.toNat) ∧
      new? order bits = .error (.soundnessNotAligned bits.toNat)) ∨
    ((0 < bits.toNat ∧ 8 ∣ bits.toNat) ∧ order ≤ 2 ^ bits.toNat ∧
      new? order bits = .error (.soundnessTooLarge bits.toNat)) ∨
    ((0 < bits.toNat ∧ 8 ∣ bits.toNat) ∧ 2 ^ bits.toNat < order ∧
      ∃ soundness : Soundness order,
        new? order bits = .ok soundness ∧ soundness.bits = bits.toNat) := by
  unfold new?
  split
  · rename_i h
    have hbelow := @powerOfTwoBelow_iff order bits (toNat_succ_of_aligned h.2)
    rw [Nat.pow_eq] at hbelow
    right
    split
    · rename_i hlt
      exact .inr ⟨aligned_iff.1 h, hbelow.1 hlt, _, rfl, rfl⟩
    · rename_i hge
      exact .inl ⟨aligned_iff.1 h, not_lt.1 (mt hbelow.2 hge), rfl⟩
  · rename_i h
    exact .inl ⟨mt aligned_iff.2 h, rfl⟩

/-- Exactly the positive multiples of eight with a power of two below the order are admitted, and
they give challenges of as many bits. A refusal says which condition fails, alignment first. What
reaches the comparison has a successor of 32 bits. -/
theorem new?_exact (order : Nat) (bits : UInt32) :
    ((∃ soundness, new? order bits = .ok soundness) ↔
      0 < bits.toNat ∧ 8 ∣ bits.toNat ∧ 2 ^ bits.toNat < order) ∧
    (∀ soundness, new? order bits = .ok soundness →
      soundness.bits = bits.toNat ∧ soundness.challengeLength = bits.toNat / 8) ∧
    (new? order bits = .error (.soundnessNotAligned bits.toNat) ↔
      bits.toNat = 0 ∨ ¬ 8 ∣ bits.toNat) ∧
    (new? order bits = .error (.soundnessTooLarge bits.toNat) ↔
      0 < bits.toNat ∧ 8 ∣ bits.toNat ∧ order ≤ 2 ^ bits.toNat) ∧
    (new? order bits ≠ .error (.soundnessNotAligned bits.toNat) →
      (bits + 1).toNat = bits.toNat + 1) := by
  rcases new?_cases order bits with ⟨halign, hnew⟩ | ⟨halign, hle, hnew⟩ |
    ⟨halign, hlt, soundness, hnew, hbits⟩
  · rw [hnew]
    refine ⟨iff_of_false nofun (fun h => halign ⟨h.1, h.2.1⟩), nofun,
      iff_of_true rfl (by omega), iff_of_false nofun fun h => halign ⟨h.1, h.2.1⟩,
      fun h => absurd rfl h⟩
  · rw [hnew]
    refine ⟨iff_of_false nofun fun h => hle.not_gt h.2.2, nofun,
      iff_of_false nofun (by omega), iff_of_true rfl ⟨halign.1, halign.2, hle⟩, fun _ => ?_⟩
    exact toNat_succ_of_aligned (aligned_iff.2 halign).2
  · rw [hnew]
    refine ⟨iff_of_true ⟨_, rfl⟩ ⟨halign.1, halign.2, hlt⟩, ?_,
      iff_of_false nofun (by omega), iff_of_false nofun fun h => h.2.2.not_gt hlt, fun _ => ?_⟩
    · rintro _ ⟨⟩
      exact ⟨hbits, by rw [challengeLength, hbits]⟩
    · exact toNat_succ_of_aligned (aligned_iff.2 halign).2

/-- An order of 257 admits eight bits, which are as many as 256 has behind its one. -/
theorem new?_exact_257 :
    (∃ soundness, new? 257 8 = .ok soundness ∧ soundness.challengeLength = 1) ∧
      new? 256 8 = .error (.soundnessTooLarge 8) ∧
      new? 257 0xffffffff = .error (.soundnessNotAligned 0xffffffff) ∧
      (0xfffffff8 + 1 : UInt32).toNat = 0xfffffff9 := by
  obtain ⟨hok, hlength, -⟩ := new?_exact 257 8
  obtain ⟨soundness, hsoundness⟩ := hok.2 (by decide)
  obtain ⟨-, -, -, hlarge, -⟩ := new?_exact 256 8
  obtain ⟨-, -, haligned, -⟩ := new?_exact 257 0xffffffff
  obtain ⟨-, -, haligned', -, hsucc⟩ := new?_exact 257 0xfffffff8
  refine ⟨⟨soundness, hsoundness, (hlength _ hsoundness).2⟩, hlarge.2 (by decide),
    haligned.2 (by decide), hsucc (mt haligned'.1 (by decide))⟩

end Soundness

namespace Challenge

variable {G : CyclicGroup} {soundness : Soundness G.order} {e e' : Challenge}

theorem check_eq_ok_iff :
    e.check soundness = .ok () ↔ e.bytes.length = soundness.challengeLength := by
  unfold check
  split
  · rename_i h; exact iff_of_true rfl h
  · rename_i h; exact iff_of_false (by simp) h

theorem isOk_check :
    (e.check soundness).isOk = decide (e.bytes.length = soundness.challengeLength) := by
  unfold check
  split
  · rename_i h; simp [h, Except.isOk, Except.toBool]
  · rename_i h; simp [h, Except.isOk, Except.toBool]

theorem bigEndian_lt (he : e.bytes.length = soundness.challengeLength) :
    e.bytes.bigEndian < G.order := by
  have h := Bytes.bigEndian_lt e.bytes
  rw [Nat.pow_eq, he] at h
  exact h.trans soundness.pow_challengeLength_lt

/-- The encoding of an exponent has room for a challenge. -/
theorem challengeLength_le_scalarWidth (soundness : Soundness G.order) :
    soundness.challengeLength ≤ G.scalarWidth := by
  have hle := G.order_le
  rw [Nat.pow_eq] at hle
  have h : 256 ^ soundness.challengeLength < 256 ^ G.scalarWidth :=
    soundness.pow_challengeLength_lt.trans_le hle
  exact ((Nat.pow_lt_pow_iff_right (by norm_num)).1 h).le

theorem length_le_scalarWidth (he : e.bytes.length = soundness.challengeLength) :
    e.bytes.length ≤ G.scalarWidth :=
  he.trans_le (challengeLength_le_scalarWidth soundness)

/-- The exponent of a challenge is its integer, without reduction. -/
theorem scalar_eq (he : e.bytes.length = soundness.challengeLength) :
    e.scalar G = ⟨e.bytes.bigEndian, bigEndian_lt he⟩ :=
  scalarOfBytes_of_lt (bigEndian_lt he)

/-- Different challenges are different exponents. -/
theorem scalar_inj (he : e.bytes.length = soundness.challengeLength)
    (he' : e'.bytes.length = soundness.challengeLength) : e.scalar G = e'.scalar G ↔ e = e' := by
  constructor
  · intro h
    rw [scalar_eq he, scalar_eq he', Fin.mk.injEq] at h
    have hb := Bytes.bigEndian_injective (he.trans he'.symm) h
    -- bytes of one length with one integer are equal
    cases e; cases e'
    exact congrArg mk hb
  · rintro rfl; rfl

/-- A challenge is read back from the encoding of its exponent, leading zero bytes included. -/
theorem ofScalarEncoding_encodeScalar (he : e.bytes.length = soundness.challengeLength) :
    ofScalarEncoding soundness (G.encodeScalar (e.scalar G)) = .ok e := by
  have hw := length_le_scalarWidth he
  unfold scalar ofScalarEncoding
  rw [encodeScalar_scalarOfBytes hw (bigEndian_lt he), ← he]
  simp [hw]

/-- Nothing else is read back as a challenge. -/
theorem ofScalarEncoding_eq_ok_iff {x : G.Scalar} :
    ofScalarEncoding soundness (G.encodeScalar x) = .ok e ↔
      e.bytes.length = soundness.challengeLength ∧ e.scalar G = x := by
  constructor
  · intro h
    unfold ofScalarEncoding at h
    simp only at h
    split_ifs at h with hshort hhigh
    cases h
    have hlen : ((G.encodeScalar x).drop
        ((G.encodeScalar x).length - soundness.challengeLength)).length =
          soundness.challengeLength := by
      rw [List.length_drop]
      omega
    refine ⟨hlen, ?_⟩
    -- the bytes before the challenge are zero, so its integer is the whole one
    rw [scalar_eq hlen]
    apply Fin.ext
    have hzero : (G.encodeScalar x).take ((G.encodeScalar x).length - soundness.challengeLength) =
        List.replicate ((G.encodeScalar x).take
          ((G.encodeScalar x).length - soundness.challengeLength)).length 0 :=
      List.eq_replicate_of_mem fun byte hbyte => by simpa using List.all_eq_true.1 hhigh byte hbyte
    have hsplit := List.take_append_drop
      ((G.encodeScalar x).length - soundness.challengeLength) (G.encodeScalar x)
    rw [hzero] at hsplit
    show Bytes.bigEndian (List.drop _ _) = x.val
    rw [← Bytes.bigEndian_replicate_zero_append, hsplit, bigEndian_encodeScalar]
  · rintro ⟨he, rfl⟩
    exact ofScalarEncoding_encodeScalar he

/-- The exponents that are read back as challenges are those with as many bits. -/
theorem exists_ofScalarEncoding_iff {x : G.Scalar} :
    (∃ e, ofScalarEncoding soundness (G.encodeScalar x) = .ok e) ↔ x.val < 2 ^ soundness.bits := by
  rw [← soundness.pow_challengeLength]
  constructor
  · rintro ⟨e, h⟩
    obtain ⟨he, rfl⟩ := ofScalarEncoding_eq_ok_iff.1 h
    have hlt := Bytes.bigEndian_lt e.bytes
    rw [Nat.pow_eq, he] at hlt
    rw [scalar_eq he]
    exact hlt
  · intro hx
    have he : (mk (Bytes.toBigEndian soundness.challengeLength x.val)).bytes.length =
        soundness.challengeLength := Bytes.length_toBigEndian _ _
    refine ⟨_, ofScalarEncoding_eq_ok_iff.2 ⟨he, ?_⟩⟩
    rw [scalar_eq he]
    exact Fin.ext (Bytes.bigEndian_toBigEndian hx)

/-- A larger exponent is refused, and the error tells how many bytes it takes. -/
theorem ofScalarEncoding_eq_error {x : G.Scalar} (hx : 2 ^ soundness.bits ≤ x.val) :
    ofScalarEncoding soundness (G.encodeScalar x) =
      .error (.challengeLength soundness.challengeLength (Nat.digits 256 x.val).length) := by
  have hnone : ∀ e, ofScalarEncoding soundness (G.encodeScalar x) ≠ .ok e := fun e h =>
    absurd (exists_ofScalarEncoding_iff.1 ⟨e, h⟩) (not_lt.2 hx)
  have hwidth := challengeLength_le_scalarWidth soundness
  unfold ofScalarEncoding at hnone ⊢
  dsimp only at hnone ⊢
  rw [if_neg (by rw [length_encodeScalar]; omega)] at hnone ⊢
  split
  · rename_i hzero
    rw [if_pos hzero] at hnone
    exact absurd rfl (hnone _)
  · rename_i hhigh
    rw [Bytes.length_sub_leading (Bool.eq_false_iff.2 hhigh), Bytes.length_significant,
      bigEndian_encodeScalar]

/-- The bytes of a challenge are a value, the challenge's exponent. -/
theorem valueOfBytes_eq (he : e.bytes.length = soundness.challengeLength) :
    Pedersen.Committer.valueOfBytes e.bytes = .ok (e.scalar G) :=
  Pedersen.Committer.valueOfBytes_eq_ok_iff.2
    (exponentOfBytes?_eq_some_iff.2 ⟨bigEndian_lt he, rfl⟩)

/-! ## All encodings -/

/-- The challenges of a soundness parameter and the exponents of as many bits are the same, in
whichever way the one is made the other. -/
structure EncodedExactly (G : CyclicGroup) (soundness : Soundness G.order) : Prop where
  /-- A challenge is its integer, without reduction. -/
  val_scalar (e : Challenge) : e.bytes.length = soundness.bits / 8 →
    (e.scalar G).val = e.bytes.integer
  injective : Set.InjOn (scalar G) {e | e.bytes.length = soundness.bits / 8}
  /-- A committer takes it as the same exponent. -/
  value (committer : Pedersen.Committer G) (e : Challenge) :
    e.bytes.length = soundness.bits / 8 →
      CommitterRole.valueOfBytes committer e.bytes = .ok (e.scalar G)
  /-- It is read back byte for byte. -/
  readBack (e : Challenge) : e.bytes.length = soundness.bits / 8 →
    ofScalarEncoding soundness (G.encodeScalar (e.scalar G)) = .ok e
  admitted (s : G.Scalar) : (∃ e, ofScalarEncoding soundness (G.encodeScalar s) = .ok e) ↔
    s.val < 2 ^ soundness.bits
  /-- What is refused has more bytes than a challenge. -/
  refused (s : G.Scalar) : 2 ^ soundness.bits ≤ s.val →
    ofScalarEncoding soundness (G.encodeScalar s) =
        .error (.challengeLength (soundness.bits / 8) (Nat.digits 256 s.val).length) ∧
      soundness.bits / 8 < (Nat.digits 256 s.val).length
  /-- The encoding of an exponent is never too short to be read. -/
  notShort (s : G.Scalar) : ¬ (G.encodeScalar s).length < soundness.bits / 8

/-- Whatever the group and the soundness parameter, challenges are encoded exactly. -/
theorem encodings_exact (G : CyclicGroup) (soundness : Soundness G.order) :
    EncodedExactly G soundness := by
  constructor
  case val_scalar =>
    intro e (he : e.bytes.length = soundness.challengeLength)
    rw [← Bytes.bigEndian_eq_integer, scalar_eq he]
  case injective =>
    intro e (he : e.bytes.length = soundness.challengeLength) e' he' h
    exact (scalar_inj he he').1 h
  case value =>
    intro committer e (he : e.bytes.length = soundness.challengeLength)
    exact valueOfBytes_eq he
  case readBack =>
    intro e he
    exact ofScalarEncoding_encodeScalar he
  case admitted =>
    intro s
    exact exists_ofScalarEncoding_iff
  case refused =>
    intro s hs
    refine ⟨ofScalarEncoding_eq_error hs, ?_⟩
    rw [← soundness.pow_challengeLength] at hs
    refine not_le.1 fun hle => absurd hs (not_le.2 ?_)
    exact (Nat.digits_length_le_iff (by norm_num) _).1 hle
  case notShort =>
    intro s
    rw [length_encodeScalar]
    exact not_lt.2 (challengeLength_le_scalarWidth soundness)

end Challenge

end TwoParty
