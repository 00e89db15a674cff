/-
Binding of hash commitments. The text that is hashed can be read back: every part but the session,
which has a fixed width, is preceded by its length. So two openings of one commitment are the same,
or the two texts are a collision of the hash function.
-/
import TwoParty.Proofs.Commitment.Hashed

namespace TwoParty

/-! ## Outputs -/

namespace Shake

theorem length_squeeze (f : Shake) (count : Nat) (s : Keccak.Lanes) :
    (f.squeeze count s).length = count * f.rate := by
  induction count generalizing s with
  | zero => rw [squeeze, List.length_nil, zero_mul]
  | succ count ih =>
    have hrate : f.rate ≤ 200 := by cases f <;> decide
    rw [squeeze, List.length_append, List.length_take, Keccak.length_toBytes, ih,
      Nat.min_eq_left hrate, Nat.succ_mul, Nat.add_comm]

theorem length_output (f : Shake) (message : Bytes) (length : Nat) :
    (f.output message length).length = length := by
  have hrate : 0 < f.rate := by cases f <;> decide
  have hblocks : length ≤ (length + f.rate - 1) / f.rate * f.rate := by
    have hlt := Nat.lt_div_mul_add (a := length + f.rate - 1) hrate
    omega
  rw [output, List.length_take, length_squeeze, Nat.min_eq_left hblocks]

/-- Two texts with one output of the given length. -/
def Collides (f : Shake) (length : Nat) (message message' : Bytes) : Prop :=
  message ≠ message' ∧ f.output message length = f.output message' length ∧
    (f.output message length).length = length

end Shake

namespace Hashed

/-! ## Reading the text back -/

theorem withLength_append_inj {a b rest rest' : Bytes} (ha : a.length < 2 ^ 64)
    (hb : b.length < 2 ^ 64) (h : withLength a ++ rest = withLength b ++ rest') :
    a = b ∧ rest = rest' := by
  unfold withLength at h
  rw [List.append_assoc, List.append_assoc] at h
  obtain ⟨hfront, htail⟩ := List.append_inj h (by simp)
  -- the lengths are read back, so the strings end at the same place
  have hlength : a.length = b.length := by
    have hread := congrArg Bytes.bigEndian hfront
    rwa [Bytes.bigEndian_toBigEndian (by simpa using ha),
      Bytes.bigEndian_toBigEndian (by simpa using hb)] at hread
  exact List.append_inj htail hlength

/-- The text determines the session, the randomness and the value. -/
theorem preimage_inj {id id' : SessionId} {r r' x x' : Bytes} (hr : r.length < 2 ^ 64)
    (hr' : r'.length < 2 ^ 64) (hx : x.length < 2 ^ 64) (hx' : x'.length < 2 ^ 64) :
    preimage id r x = preimage id' r' x' ↔ (id, r, x) = (id', r', x') := by
  constructor
  · intro h
    unfold preimage at h
    simp only [List.append_assoc, List.append_cancel_left_eq] at h
    obtain ⟨hid, hrest⟩ := List.append_inj h (by simp)
    have hid' := congrArg Bytes.bigEndian hid
    rw [Bytes.bigEndian_toBigEndian id.toNat_lt, Bytes.bigEndian_toBigEndian id'.toNat_lt] at hid'
    obtain ⟨rfl, hlast⟩ := withLength_append_inj hr hr' hrest
    rw [← List.append_nil (withLength x), ← List.append_nil (withLength x')] at hlast
    obtain ⟨rfl, -⟩ := withLength_append_inj hx hx' hlast
    rw [UInt64.toNat_inj.1 hid']
  · rintro ⟨⟩
    rfl

/-! ## Binding -/

/-- The receiver takes the opening that the next frame writes for one of the commitment `c`, which
it holds for the session. -/
def Receiver.Accepts (receiver : Receiver) (id : SessionId) (c r x : Bytes) : Prop :=
  receiver.commitments.find? id = some c ∧
    ∃ e o, Conveys OpeningMessage.Writes e.inbox.head? (id, r, x) ∧
      ((receiveOpening id).runIn receiver).run.run e = some o ∧ o.result = .ok (x, receiver)

/-- What is accepted has the commitment for its digest, and lengths that are written in eight
bytes. -/
theorem Receiver.accepts_iff {receiver : Receiver} {id : SessionId} {c r x : Bytes} :
    receiver.Accepts id c r x ↔ receiver.commitments.find? id = some c ∧ r.length < 2 ^ 64 ∧
      x.length < 2 ^ 64 ∧ digest receiver.hash id r x = c := by
  have hrun : receiver.commitments.find? id = some c → ∀ e : Endpoint,
      ((receiveOpening id).runIn receiver).Ensures e False fun o =>
        ∀ x, o.result = .ok (x, receiver) ↔ Conveys (fun message x => ∃ r,
          OpeningMessage.Writes message (id, r, x) ∧ digest receiver.hash id r x = c)
            e.inbox.head? x := by
    intro hfind e
    have hheard : ∀ x,
        Attempt.heard (checkOpening receiver.hash id c) e.inbox.head? = .ok x ↔ _ :=
      fun x => Attempt.heard_eq_ok_iff fun _ _ => checkOpening_eq_ok_iff
    rw [receiveOpening_eq _ _ hfind]
    refine .hear rfl (fun error herror x => ?_) (fun y hy => .note (.pure fun x => ?_))
    · rw [← hheard, herror]
      exact iff_of_false nofun nofun
    · rw [← hheard, hy]
      constructor
      · rintro ⟨⟩; rfl
      · rintro ⟨⟩; rfl
  constructor
  · rintro ⟨hfind, e, o, ⟨frame, message, hframe, hread, hwrites⟩, ho, hresult⟩
    obtain ⟨frame', message', hframe', hread', r', hwrites', hdigest⟩ :=
      ((hrun hfind e).outcome ho x).1 hresult
    -- the frame conveys one opening only
    cases hframe.symm.trans hframe'
    cases hread.symm.trans hread'
    cases hwrites.symm.trans hwrites'
    obtain ⟨id, r, x⟩ := message
    cases hwrites
    obtain ⟨hfits, -⟩ := (Wire.decode_eq_ok_iff _ _).1 hread
    exact ⟨hfind, hfits.2.1, hfits.2.2, hdigest⟩
  · rintro ⟨hfind, hr, hx, hdigest⟩
    let e := (Endpoint.fresh (.constant 0)).deliver [Wire.write (OpeningMessage.mk id r x)]
    have hfits : Wire.Fits (OpeningMessage.mk id r x) := ⟨trivial, hr, hx⟩
    have hread := Wire.decode_write hfits
    obtain ⟨o, ho, haccepted⟩ := (hrun hfind e).exists_outcome not_false
    exact ⟨hfind, e, o, ⟨_, _, rfl, hread, rfl⟩, ho,
      (haccepted x).2 ⟨_, _, rfl, hread, r, rfl, hdigest⟩⟩

/-- Two openings of one commitment, of one session or of two, are the same, or else their texts are
a collision of the hash function. For the text determines the session, the randomness and the
value, of whatever lengths they are. -/
theorem openings_collide :
    (∀ (id id' : SessionId) (r r' x x' : Bytes), r.length < 2 ^ 64 → r'.length < 2 ^ 64 →
      x.length < 2 ^ 64 → x'.length < 2 ^ 64 →
      (preimage id r x = preimage id' r' x' ↔ (id, r, x) = (id', r', x'))) ∧
    ∀ (receiver receiver' : Receiver) (id id' : SessionId) (c r r' x x' : Bytes),
      receiver'.hash = receiver.hash →
      receiver.Accepts id c r x → receiver'.Accepts id' c r' x' →
      ((id, r, x) ≠ (id', r', x') ↔
        receiver.hash.Collides 32 (preimage id r x) (preimage id' r' x')) := by
  refine ⟨fun _ _ _ _ _ _ hr hr' hx hx' => preimage_inj hr hr' hx hx', ?_⟩
  intro receiver receiver' id id' c r r' x x' hhash h h'
  obtain ⟨-, hr, hx, hdigest⟩ := Receiver.accepts_iff.1 h
  obtain ⟨-, hr', hx', hdigest'⟩ := Receiver.accepts_iff.1 h'
  have hsame : digest receiver.hash id r x = digest receiver.hash id' r' x' := by
    rw [hdigest, ← hhash, hdigest']
  rw [ne_eq, ← preimage_inj hr hr' hx hx']
  exact ⟨fun hne => ⟨hne, hsame, Shake.length_output _ _ _⟩, And.left⟩

/-- Moving a byte over the boundary between the randomness and the value changes the text, and an
opening with randomness of three bytes can be accepted many times without a collision. -/
theorem openings_collide_boundary :
    preimage 1 [1, 2] [3, 4] ≠ preimage 1 [1, 2, 3] [4] ∧
      ∃ receiver : Receiver,
        receiver.Accepts 1 (digest receiver.hash 1 [1, 2, 3] [4]) [1, 2, 3] [4] ∧
        ¬ receiver.hash.Collides 32 (preimage 1 [1, 2, 3] [4]) (preimage 1 [1, 2, 3] [4]) := by
  have hshort : ∀ {bytes : Bytes}, bytes.length ≤ 3 → bytes.length < 2 ^ 64 := by omega
  obtain ⟨hinj, hbinding⟩ := openings_collide
  refine ⟨fun h => ?_, ?_⟩
  · have heq := (hinj 1 1 _ _ _ _ (hshort (by decide)) (hshort (by decide)) (hshort (by decide))
      (hshort (by decide))).1 h
    exact absurd heq (by decide)
  · let receiver : Receiver :=
      { hash := .shake128, commitments := ⟨[(1, digest .shake128 1 [1, 2, 3] [4])]⟩ }
    have haccepts : receiver.Accepts 1 (digest .shake128 1 [1, 2, 3] [4]) [1, 2, 3] [4] :=
      Receiver.accepts_iff.2 ⟨rfl, hshort (by decide), hshort (by decide), rfl⟩
    exact ⟨receiver, haccepts, fun h =>
      (hbinding receiver receiver 1 1 _ _ _ _ _ rfl haccepts haccepts).2 h rfl⟩

end Hashed

end TwoParty
