/-
A receiver of transfers against any sender. Whether an answer is flawed, and which flaw is reported,
is decided by both of its halves before the choice is looked at; after that nothing fails, since
keys are derived up to the payload limit. So the abort of a transfer says nothing about the choice,
and the string that is read depends on the chosen half alone.
-/
import TwoParty.Proofs.Transfer.Correctness

namespace TwoParty.Transfer

open CyclicGroup

variable {G : CyclicGroup}

/-! ## Answers -/

/-- What an answer says once it has passed all checks. -/
structure Answer (G : CyclicGroup) where
  u0 : G.Element
  c0 : Bytes
  u1 : G.Element
  c1 : Bytes

/-- The element and the masked string of a choice. -/
def Answer.half (answer : Answer G) (choice : Bool) : G.Element × Bytes :=
  if choice then (answer.u1, answer.c1) else (answer.u0, answer.c0)

/-- The message describes two members of the group, and its strings have one length, which is not
beyond the limit. -/
structure AnswerMessage.Describes (limit : Nat) (m : AnswerMessage) (answer : Answer G) : Prop where
  u0 : G.Describes m.u0 answer.u0
  u1 : G.Describes m.u1 answer.u1
  c0 : m.c0 = answer.c0
  c1 : m.c1 = answer.c1
  length_eq : answer.c0.length = answer.c1.length
  length_le : answer.c0.length ≤ limit

/-- The first check that the message fails: that of the first element, that of the second, that of
the two lengths, that of the limit. -/
inductive AnswerMessage.Fails (G : CyclicGroup) (limit : Nat) (m : AnswerMessage) : Cheating → Prop
  | first (hu0 : ∀ a, ¬ G.Describes m.u0 a) : Fails G limit m (.notMember "u0")
  | second {u0 : G.Element} (hu0 : G.Describes m.u0 u0) (hu1 : ∀ a, ¬ G.Describes m.u1 a) :
    Fails G limit m (.notMember "u1")
  | lengths {u0 u1 : G.Element} (hu0 : G.Describes m.u0 u0) (hu1 : G.Describes m.u1 u1)
    (hlen : m.c0.length ≠ m.c1.length) :
    Fails G limit m (.payloadLengthMismatch m.c0.length m.c1.length)
  | tooLong {u0 u1 : G.Element} (hu0 : G.Describes m.u0 u0) (hu1 : G.Describes m.u1 u1)
    (hlen : m.c0.length = m.c1.length) (hlimit : limit < m.c0.length) :
    Fails G limit m (.payloadTooLong limit)

/-- The frame conveys an answer. -/
def ConveysAnswer (limit : Nat) (frame? : Option Bytes) (answer : Answer G) : Prop :=
  Conveys (AnswerMessage.Describes limit) frame? answer

/-- The frame conveys no answer, which is an error. -/
def FlawedAnswer (G : CyclicGroup) (limit : Nat) (frame? : Option Bytes) (error : ProtocolError) :
    Prop :=
  Flawed (AnswerMessage.Fails G limit) frame? error

/-! ## The checks -/

namespace AnswerMessage

/-- All checks of an answer. -/
def read (G : CyclicGroup) (limit : Nat) (m : AnswerMessage) : Except Cheating (Answer G) := do
  let u0 ← G.decodeMember "u0" m.u0
  let u1 ← G.decodeMember "u1" m.u1
  if m.c0.length ≠ m.c1.length then
    .error (.payloadLengthMismatch m.c0.length m.c1.length)
  else if m.c0.length > limit then .error (.payloadTooLong limit)
  else .ok ⟨u0, m.c0, u1, m.c1⟩

variable {limit : Nat} {m : AnswerMessage}

theorem read_eq_ok_iff {answer : Answer G} :
    read G limit m = .ok answer ↔ m.Describes limit answer := by
  unfold read
  simp only [bind_eq_ok_iff, decodeMember_eq_ok_iff]
  constructor
  · rintro ⟨u0, hu0, u1, hu1, h⟩
    split at h
    · cases h
    · rename_i hlen
      split at h
      · cases h
      · rename_i hlimit
        cases h
        exact ⟨hu0, hu1, rfl, rfl, not_not.1 hlen, not_lt.1 hlimit⟩
  · obtain ⟨u0, c0, u1, c1⟩ := answer
    rintro ⟨hu0, hu1, rfl, rfl, hlen, hlimit⟩
    refine ⟨u0, hu0, u1, hu1, ?_⟩
    rw [if_neg (not_not.2 hlen), if_neg (not_lt.2 hlimit)]

theorem read_eq_error_iff {cause : Cheating} :
    read G limit m = .error cause ↔ m.Fails G limit cause := by
  unfold read
  simp only [bind_eq_error_iff, decodeMember_eq_ok_iff, decodeMember_eq_error_iff]
  constructor
  · rintro (⟨hu0, rfl⟩ | ⟨u0, hu0, ⟨hu1, rfl⟩ | ⟨u1, hu1, h⟩⟩)
    · exact .first hu0
    · exact .second hu0 hu1
    · split at h
      · rename_i hlen; cases h; exact .lengths hu0 hu1 hlen
      · rename_i hlen
        split at h
        · rename_i hlimit; cases h; exact .tooLong hu0 hu1 (not_not.1 hlen) hlimit
        · cases h
  · rintro (hu0 | ⟨hu0, hu1⟩ | ⟨hu0, hu1, hlen⟩ | ⟨hu0, hu1, hlen, hlimit⟩)
    · exact .inl ⟨hu0, rfl⟩
    · exact .inr ⟨_, hu0, .inl ⟨hu1, rfl⟩⟩
    · exact .inr ⟨_, hu0, .inr ⟨_, hu1, if_pos hlen⟩⟩
    · refine .inr ⟨_, hu0, .inr ⟨_, hu1, ?_⟩⟩
      rw [if_neg (not_not.2 hlen), if_pos hlimit]

end AnswerMessage

/-- What a requested transfer unmasks of an answer. -/
def Pending.chosen (pending : Pending G) (answer : Answer G) : Chosen G :=
  ⟨pending.core, pending.r, (answer.half pending.choice).1, (answer.half pending.choice).2⟩

/-- The choice is made after all checks. -/
theorem Pending.choose_eq (pending : Pending G) (m : AnswerMessage) :
    pending.choose m = do return pending.chosen (← m.read G pending.core.maxPayload) := by
  unfold Pending.choose AnswerMessage.read
  rcases G.decodeMember "u0" m.u0 with cause | u0
  · rfl
  rcases G.decodeMember "u1" m.u1 with cause | u1
  · rfl
  simp only [bind, Except.bind]
  split
  · rfl
  split
  · rfl
  obtain ⟨core, choice, r⟩ := pending
  cases choice
  · rfl
  · rfl

section Heard

variable {pending : Pending G} {frame? : Option Bytes}

theorem heard_choose_iff {chosen : Chosen G} :
    Attempt.heard pending.choose frame? = .ok chosen ↔
      ∃ answer, ConveysAnswer pending.core.maxPayload frame? answer ∧
        pending.chosen answer = chosen := by
  have hchoose : ∀ m chosen, pending.choose m = .ok chosen ↔
      ∃ answer, m.Describes pending.core.maxPayload answer ∧ pending.chosen answer = chosen := by
    intro m chosen
    rw [Pending.choose_eq, bind_eq_ok_iff]
    simp only [AnswerMessage.read_eq_ok_iff, pure, Except.pure, Except.ok.injEq]
  rw [Attempt.heard_eq_ok_iff hchoose]
  unfold ConveysAnswer Conveys
  constructor
  · rintro ⟨frame, m, hframe, hread, answer, hanswer, hchosen⟩
    exact ⟨answer, ⟨frame, m, hframe, hread, hanswer⟩, hchosen⟩
  · rintro ⟨answer, ⟨frame, m, hframe, hread, hanswer⟩, hchosen⟩
    exact ⟨frame, m, hframe, hread, answer, hanswer, hchosen⟩

theorem heard_choose_error_iff {error : ProtocolError} :
    Attempt.heard pending.choose frame? = .error error ↔
      FlawedAnswer G pending.core.maxPayload frame? error := by
  refine Attempt.heard_eq_error_iff fun m cause => ?_
  rw [Pending.choose_eq]
  simp only [bind_eq_error_iff, AnswerMessage.read_eq_error_iff, pure, Except.pure, reduceCtorEq,
    and_false, exists_false, or_false]

theorem ConveysAnswer.not_flawed {limit : Nat} {answer : Answer G} {error : ProtocolError}
    (hanswer : ConveysAnswer limit frame? answer) : ¬ FlawedAnswer G limit frame? error := by
  intro hflawed
  have hok := Attempt.heard_eq_ok_iff (fun _ _ => AnswerMessage.read_eq_ok_iff) |>.2 hanswer
  have herror := Attempt.heard_eq_error_iff (fun _ _ => AnswerMessage.read_eq_error_iff) |>.2
    hflawed
  cases hok.symm.trans herror

theorem ConveysAnswer.unique {limit : Nat} {answer answer' : Answer G}
    (hanswer : ConveysAnswer limit frame? answer) (hanswer' : ConveysAnswer limit frame? answer') :
    answer = answer' := by
  have hok := Attempt.heard_eq_ok_iff (fun _ _ => AnswerMessage.read_eq_ok_iff) |>.2 hanswer
  have hok' := Attempt.heard_eq_ok_iff (fun _ _ => AnswerMessage.read_eq_ok_iff) |>.2 hanswer'
  cases hok.symm.trans hok'
  rfl

end Heard

/-! ## One transfer -/

/-- How a transfer ends with the frame that comes: the errors are the flaws of the frame, none of
which is the caller's; what is read is the string of the choice without the key of its element. -/
structure Answered (kdf : KeyDerivation) (limit : Nat) (choice : Bool) (r : G.Scalar)
    (frame? : Option Bytes) (result : Except ProtocolError Bytes) : Prop where
  fails (error : ProtocolError) : result = .error error ↔ FlawedAnswer G limit frame? error
  blameless (cause : InputError) : result ≠ .error (.input cause)
  reads (output : Bytes) : result = .ok output ↔ ∃ (answer : Answer G) (key : Bytes),
    ConveysAnswer limit frame? answer ∧
    kdf.derive (G.encode (G.exponentiate (answer.half choice).1 r))
      (answer.half choice).2.length = .ok key ∧
    output = (answer.half choice).2.xor key ∧ output.length = answer.c0.length

section Answered

variable {kdf : KeyDerivation} {limit : Nat} {choice choice' : Bool} {r r' : G.Scalar}
  {frame? frame?' : Option Bytes}

theorem FlawedAnswer.ne_input {cause : InputError} :
    ¬ FlawedAnswer G limit frame? (.input cause) := nofun

theorem FlawedAnswer.answered {error : ProtocolError} (h : FlawedAnswer G limit frame? error) :
    Answered kdf limit choice r frame? (.error error) where
  fails error' := by
    constructor
    · rintro ⟨⟩; exact h
    · intro h'
      have heq := (Attempt.heard_eq_error_iff fun _ _ => AnswerMessage.read_eq_error_iff).2 h
      have heq' := (Attempt.heard_eq_error_iff fun _ _ => AnswerMessage.read_eq_error_iff).2 h'
      cases heq.symm.trans heq'
      rfl
  blameless cause := by rintro ⟨⟩; exact FlawedAnswer.ne_input h
  reads output := iff_of_false nofun fun ⟨_, _, hanswer, _⟩ => hanswer.not_flawed h

/-- The key of the chosen half is derived, whatever half it is. -/
theorem ConveysAnswer.exists_key (hkdf : kdf.Faithful) (hlimit : limit ≤ kdf.maxLength)
    {answer : Answer G} (hanswer : ConveysAnswer limit frame? answer) (choice : Bool)
    (r : G.Scalar) : ∃ key, kdf.derive (G.encode (G.exponentiate (answer.half choice).1 r))
      (answer.half choice).2.length = .ok key ∧
      ((answer.half choice).2.xor key).length = answer.c0.length := by
  obtain ⟨_, _, -, -, -, -, -, -, heq, hle⟩ := hanswer
  have hhalf : (answer.half choice).2.length = answer.c0.length := by
    cases choice
    · rfl
    · exact heq.symm
  obtain ⟨key, hkey, -⟩ := hkdf.derive_ok (G.encode (G.exponentiate (answer.half choice).1 r))
    (hhalf.trans_le (hle.trans hlimit))
  exact ⟨key, hkey, by rw [Bytes.length_xor, hhalf]⟩

theorem ConveysAnswer.answered {answer : Answer G} (h : ConveysAnswer limit frame? answer)
    {key : Bytes} (hkey : kdf.derive (G.encode (G.exponentiate (answer.half choice).1 r))
      (answer.half choice).2.length = .ok key)
    (hlen : ((answer.half choice).2.xor key).length = answer.c0.length) :
    Answered kdf limit choice r frame? (.ok ((answer.half choice).2.xor key)) where
  fails error := iff_of_false nofun h.not_flawed
  blameless cause := nofun
  reads output := by
    constructor
    · rintro ⟨⟩; exact ⟨answer, key, h, hkey, rfl, hlen⟩
    · rintro ⟨answer', key', h', hkey', rfl, -⟩
      -- there is no other answer, and no other key
      cases h.unique h'
      cases hkey.symm.trans hkey'
      rfl

/-- Two transfers of one frame fail alike, or both read strings of one length. -/
theorem Answered.map_length_eq {result result' : Except ProtocolError Bytes}
    (h : Answered kdf limit choice r frame? result)
    (h' : Answered kdf limit choice' r' frame? result') :
    result.map List.length = result'.map List.length := by
  rcases result with error | output
  · rw [(h'.fails error).2 ((h.fails error).1 rfl)]
  · rcases result' with error' | output'
    · cases (h.fails error').2 ((h'.fails error').1 rfl)
    · obtain ⟨answer, key, hanswer, -, -, hlen⟩ := (h.reads output).1 rfl
      obtain ⟨answer', key', hanswer', -, -, hlen'⟩ := (h'.reads output').1 rfl
      cases hanswer.unique hanswer'
      exact congrArg Except.ok (hlen.trans hlen'.symm)

/-- Only the chosen half of an answer shows in what is read. -/
theorem Answered.eq_of_half_eq (hkdf : kdf.Faithful) (hlimit : limit ≤ kdf.maxLength)
    {answer answer' : Answer G} (hanswer : ConveysAnswer limit frame? answer)
    (hanswer' : ConveysAnswer limit frame?' answer')
    (hhalf : answer.half choice = answer'.half choice) {result result' : Except ProtocolError Bytes}
    (h : Answered kdf limit choice r frame? result)
    (h' : Answered kdf limit choice r frame?' result') : result = result' := by
  obtain ⟨key, hkey, hlen⟩ := hanswer.exists_key hkdf hlimit choice r
  have hread := (h.reads _).2 ⟨answer, key, hanswer, hkey, rfl, hlen⟩
  obtain ⟨key', hkey', hlen'⟩ := hanswer'.exists_key hkdf hlimit choice r
  have hread' := (h'.reads _).2 ⟨answer', key', hanswer', hkey', rfl, hlen'⟩
  rw [hhalf] at hkey hread
  cases hkey.symm.trans hkey'
  rw [hread, hread']

end Answered

/-! ## Runs -/

section Runs

variable {core : Core} {bases : Bases G} {choice : Bool} {source source' : Source}
  {inbox : List Bytes} {line : Nat → Bool} {r : G.Scalar}

theorem run_transfer_none (h : G.nextNonzeroScalar source = none) :
    (Receiver.transfer ⟨core, bases⟩ choice).run.run ⟨source, inbox, line⟩ = none := by
  unfold Receiver.transfer Core.request
  rw [Attempt.run_of_bind]
  show ((G.randomNonzeroScalar.bind _).bind _).run _ = _
  rw [Program.bind_assoc, run_randomNonzeroScalar_bind, h]
  rfl

/-- A transfer sends its request and is decided by the frame that comes then. -/
theorem onChannel_transfer (hkdf : core.kdf.Faithful)
    (hlimit : core.maxPayload ≤ core.kdf.maxLength)
    (hr : G.nextNonzeroScalar source = some (r, source')) :
    (Receiver.transfer ⟨core, bases⟩ choice).OnChannel source inbox line False fun _ result =>
      (line 0 = false → result = .error (.channel .closed)) ∧
      (line 0 = true → Answered core.kdf core.maxPayload choice r inbox.head? result) := by
  unfold Receiver.transfer
  refine .yields (.of (yields_request bases choice hr)) ?_
  refine .send (fun hline => ?_) fun hline => ⟨fun _ => rfl, by simp [hline]⟩
  unfold Pending.finish
  refine .hear rfl (fun error hheard => ?_) fun chosen hheard => ?_
  · have hflawed := heard_choose_error_iff.1 hheard
    exact ⟨by simp [hline], fun _ => hflawed.answered⟩
  · -- after the checks the chosen half is unmasked, which cannot fail
    obtain ⟨answer, hanswer, rfl⟩ := heard_choose_iff.1 hheard
    obtain ⟨key, hkey, hlen⟩ := hanswer.exists_key hkdf hlimit choice r
    have hmask : mask core.kdf (G.exponentiate (answer.half choice).1 r) (answer.half choice).2 =
        .ok ((answer.half choice).2.xor key) := by
      unfold mask
      rw [hkey]
      rfl
    unfold Chosen.unmask Pending.chosen
    simp only [hmask, Attempt.require_ok, pure_bind]
    exact .note (.pure ⟨by simp [hline], fun _ => hanswer.answered hkey hlen⟩)

end Runs

/-- The receiver's aborts are blind to its choice. With parameters that were accepted, any bases
and whatever frame comes, a transfer fails exactly if the frame is missing or flawed, with the
first flaw as its error, and never at the key derivation; else it unmasks the half of its choice.
So two transfers with one frame, whatever their choices and their randomness, fail alike or read
strings of one length, and what is read does not depend on the half that was not chosen. -/
theorem transfer_blind {kdf : KeyDerivation} (hkdf : kdf.Faithful) {config : Config} {core : Core}
    (hcore : Core.new? kdf config = .ok core) (bases : Bases G) (line : Nat → Bool) :
    (∀ choice source inbox, G.nextNonzeroScalar source = none →
      (Receiver.transfer ⟨core, bases⟩ choice).run.run ⟨source, inbox, line⟩ = none) ∧
    (∀ choice source inbox r source', G.nextNonzeroScalar source = some (r, source') →
      ∃ o, (Receiver.transfer ⟨core, bases⟩ choice).run.run ⟨source, inbox, line⟩ = some o ∧
        (line 0 = false → o.result = .error (.channel .closed)) ∧
        (line 0 = true → Answered kdf config.maxPayload choice r inbox.head? o.result)) ∧
    (∀ choice choice' source source' inbox o o',
      (Receiver.transfer ⟨core, bases⟩ choice).run.run ⟨source, inbox, line⟩ = some o →
      (Receiver.transfer ⟨core, bases⟩ choice').run.run ⟨source', inbox, line⟩ = some o' →
      o.result.map List.length = o'.result.map List.length) ∧
    ∀ choice source inbox inbox' o o' (answer answer' : Answer G),
      ConveysAnswer config.maxPayload inbox.head? answer →
      ConveysAnswer config.maxPayload inbox'.head? answer' →
      answer.half choice = answer'.half choice →
      (Receiver.transfer ⟨core, bases⟩ choice).run.run ⟨source, inbox, line⟩ = some o →
      (Receiver.transfer ⟨core, bases⟩ choice).run.run ⟨source, inbox', line⟩ = some o' →
      o.result = o'.result := by
  obtain ⟨rfl, hlimit⟩ := Core.new?_ok hcore
  -- a run that ends has drawn its exponent
  have hends : ∀ choice source inbox o,
      (Receiver.transfer ⟨⟨kdf, config.maxPayload, config.span⟩, bases⟩ choice).run.run
        ⟨source, inbox, line⟩ = some o → ∃ r source',
      G.nextNonzeroScalar source = some (r, source') ∧
      (line 0 = false → o.result = .error (.channel .closed)) ∧
      (line 0 = true → Answered kdf config.maxPayload choice r inbox.head? o.result) := by
    intro choice source inbox o hrun
    rcases hr : G.nextNonzeroScalar source with _ | ⟨r, source'⟩
    · rw [run_transfer_none hr] at hrun; cases hrun
    · exact ⟨r, source', rfl, (onChannel_transfer hkdf hlimit hr).outcome hrun⟩
  refine ⟨fun choice source inbox hnone => run_transfer_none hnone, ?_, ?_, ?_⟩
  · intro choice source inbox r source' hr
    exact (onChannel_transfer hkdf hlimit hr).exists_outcome not_false
  · intro choice choice' source source' inbox o o' hrun hrun'
    obtain ⟨r, -, -, hclosed, hanswered⟩ := hends _ _ _ _ hrun
    obtain ⟨r', -, -, hclosed', hanswered'⟩ := hends _ _ _ _ hrun'
    rcases hline : line 0 with _ | _
    · rw [hclosed hline, hclosed' hline]
    · exact (hanswered hline).map_length_eq (hanswered' hline)
  · intro choice source inbox inbox' o o' answer answer' hanswer hanswer' hhalf hrun hrun'
    obtain ⟨r, source', hr, hclosed, hanswered⟩ := hends _ _ _ _ hrun
    obtain ⟨r', source'', hr', hclosed', hanswered'⟩ := hends _ _ _ _ hrun'
    cases hr.symm.trans hr'
    rcases hline : line 0 with _ | _
    · rw [hclosed hline, hclosed' hline]
    · exact (hanswered hline).eq_of_half_eq hkdf hlimit hanswer hanswer' hhalf (hanswered' hline)

/-- An answer whose elements are both the generator. -/
def answer281 (c0 c1 : Bytes) : AnswerMessage :=
  let u := Residues.order281.group.encode Residues.order281.group.generator
  ⟨u, c0, u, c1⟩

/-- The second byte of `c1` is one too many for either choice; without it the choice decides. -/
theorem transfer_blind_order281 :
    (∀ choice, ∃ o, (Receiver.transfer ⟨⟨.hkdfSha256, 4, none⟩, bases281⟩ choice).run.run
        ⟨ones, [Wire.write (answer281 [1] [2, 3])], fun _ => true⟩ = some o ∧
      o.result = .error (.cheating (.payloadLengthMismatch 1 2))) ∧
    (∃ o o', (Receiver.transfer ⟨⟨.hkdfSha256, 4, none⟩, bases281⟩ true).run.run
        ⟨ones, [Wire.write (answer281 [1] [2])], fun _ => true⟩ = some o ∧
      (Receiver.transfer ⟨⟨.hkdfSha256, 4, none⟩, bases281⟩ true).run.run
        ⟨ones, [Wire.write (answer281 [7] [2])], fun _ => true⟩ = some o' ∧
      o.result = o'.result) ∧
    (Receiver.transfer ⟨⟨.hkdfSha256, 4, none⟩, bases281⟩ true).run.run
      ⟨.constant 255, [], fun _ => true⟩ = none := by
  have hG := Residues.primeOrder_order281
  have hg : Residues.order281.group.Describes
      (Residues.order281.group.encode Residues.order281.group.generator)
      Residues.order281.group.generator :=
    ⟨hG.decode?_encode _ hG.isMember_generator, hG.isMember_generator⟩
  obtain ⟨hnone, hends, -, hhalf⟩ := transfer_blind KeyDerivation.faithful_hkdfSha256
    (show Core.new? .hkdfSha256 config281 = .ok ⟨.hkdfSha256, 4, none⟩ from rfl) bases281
    fun _ => true
  let g := Residues.order281.group.generator
  have hconveys : ∀ c0 : UInt8, ConveysAnswer config281.maxPayload
      [Wire.write (answer281 [c0] [2])].head? ⟨g, [c0], g, [2]⟩ := by
    intro c0
    have hone : 1 < 2 ^ 64 := by norm_num
    have hfits : Wire.Fits (answer281 [c0] [2]) :=
      ⟨hG.fits_element hg.2, hone, hG.fits_element hg.2, hone⟩
    exact ⟨_, _, rfl, Wire.decode_write hfits, hg, hg, rfl, rfl, rfl, show 1 ≤ 4 by decide⟩
  refine ⟨fun choice => ?_, ?_, hnone _ _ _ rfl⟩
  · obtain ⟨o, hrun, -, hanswered⟩ :=
      hends choice ones [Wire.write (answer281 [1] [2, 3])] _ _ rfl
    exact ⟨o, hrun, ((hanswered rfl).fails _).2 (.malformed rfl (.lengths hg hg (by decide)))⟩
  · obtain ⟨o, hrun, -⟩ := hends true ones [Wire.write (answer281 [1] [2])] _ _ rfl
    obtain ⟨o', hrun', -⟩ := hends true ones [Wire.write (answer281 [7] [2])] _ _ rfl
    exact ⟨o, o', hrun, hrun', hhalf _ _ _ _ _ _ _ _ (hconveys 1) (hconveys 7) rfl hrun hrun'⟩

end TwoParty.Transfer
