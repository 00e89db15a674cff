/-
The binary form of messages: reading takes off the front of a frame exactly what writing puts
there. Counts are written in eight bytes, so the law holds of the values whose counts fit; those
are all that reading ever gives.
-/
import TwoParty.Wire
import Mathlib.Tactic

namespace TwoParty.Wire

/-! ## The law -/

/-- A value is read off a frame exactly if it fits and the frame begins with its written form. -/
structure Exact {α : Type} (write : α → Bytes) (read : Bytes → Option (α × Bytes))
    (fits : α → Prop) : Prop where
  read_iff (frame : Bytes) (value : α) (rest : Bytes) :
    read frame = some (value, rest) ↔ fits value ∧ frame = write value ++ rest

/-- A type of message parts whose binary form satisfies the law. -/
class Lawful (α : Type) [Wire α] where
  Fits : α → Prop
  exact : Exact (write (α := α)) read Fits

export Lawful (Fits)

namespace Exact

variable {α β : Type} {write : α → Bytes} {read : Bytes → Option (α × Bytes)} {fits : α → Prop}

theorem read_write (h : Exact write read fits) {value : α} (hv : fits value) (rest : Bytes) :
    read (write value ++ rest) = some (value, rest) :=
  (h.read_iff _ _ _).2 ⟨hv, rfl⟩

/-- The values of another type, which are written as their contents. -/
theorem comap (h : Exact write read fits) {content : β → α} {ofContent : α → β}
    (hc : ∀ b, ofContent (content b) = b) (ho : ∀ a, content (ofContent a) = a) :
    Exact (fun b => write (content b))
      (fun frame => (read frame).map fun (a, rest) => (ofContent a, rest))
      (fun b => fits (content b)) := by
  constructor
  intro frame b rest
  constructor
  · intro hr
    simp only [Option.map_eq_some_iff, Prod.mk.injEq] at hr
    obtain ⟨⟨a, rest'⟩, h1, rfl, rfl⟩ := hr
    rw [ho]
    exact (h.read_iff _ _ _).1 h1
  · rintro ⟨hb, rfl⟩
    rw [h.read_write hb, Option.map_some]
    simp only [hc]

end Exact

/-! ## Integers and counts -/

theorem toLittleEndian_uint64 (n : UInt64) :
    UInt64.ofNat (Bytes.littleEndian (Bytes.toLittleEndian 8 n.toNat)) = n := by
  rw [Bytes.littleEndian_toLittleEndian n.toNat_lt, UInt64.ofNat_toNat]

instance : Lawful UInt64 where
  Fits _ := True
  exact := by
    constructor
    intro frame n rest
    simp only [write, read]
    constructor
    · intro h
      split at h
      · cases h
      · rename_i hlen
        push Not at hlen
        cases h
        have htake : (frame.take 8).length = 8 := by simp [hlen]
        have hlt := Bytes.littleEndian_lt (frame.take 8)
        rw [htake] at hlt
        -- eight bytes are written again as they were read
        refine ⟨trivial, ?_⟩
        have hback := Bytes.toLittleEndian_littleEndian (frame.take 8)
        rw [htake] at hback
        rw [UInt64.toNat_ofNat_of_lt' hlt, hback, List.take_append_drop]
    · rintro ⟨-, rfl⟩
      have hlen : (Bytes.toLittleEndian 8 n.toNat).length = 8 := Bytes.length_toLittleEndian _ _
      rw [if_neg (by simp), List.take_left' hlen, List.drop_left' hlen, toLittleEndian_uint64]

theorem readLength_iff (frame : Bytes) (n : Nat) (rest : Bytes) :
    readLength frame = some (n, rest) ↔
      n < 2 ^ 64 ∧ frame = write (UInt64.ofNat n) ++ rest := by
  unfold readLength
  rw [Option.map_eq_some_iff]
  constructor
  · rintro ⟨⟨m, rest'⟩, h, heq⟩
    obtain ⟨-, rfl⟩ := (Lawful.exact.read_iff _ _ _).1 h
    cases heq
    exact ⟨m.toNat_lt, by rw [UInt64.ofNat_toNat]⟩
  · rintro ⟨hn, rfl⟩
    refine ⟨(UInt64.ofNat n, rest), Lawful.exact.read_write trivial rest, ?_⟩
    simp only [UInt64.toNat_ofNat_of_lt' hn]

/-! ## Strings and lists -/

theorem write_bytes (bytes : Bytes) :
    write bytes = write (UInt64.ofNat bytes.length) ++ bytes := rfl

theorem read_bytes (frame : Bytes) :
    (read frame : Option (Bytes × Bytes)) = (readLength frame).bind fun (length, rest) =>
      if rest.length < length then none else some (rest.take length, rest.drop length) := rfl

instance : Lawful Bytes where
  Fits bytes := bytes.length < 2 ^ 64
  exact := by
    constructor
    intro frame bytes rest
    rw [read_bytes, write_bytes]
    constructor
    · intro h
      obtain ⟨⟨length, tail⟩, hl, hb⟩ := Option.bind_eq_some_iff.1 h
      obtain ⟨hlt, rfl⟩ := (readLength_iff _ _ _).1 hl
      simp only at hb
      split at hb
      · cases hb
      · rename_i hlen
        push Not at hlen
        cases hb
        have htake : (tail.take length).length = length := by simp [hlen]
        refine ⟨by rw [htake]; exact hlt, ?_⟩
        rw [htake, List.append_assoc, List.take_append_drop]
    · rintro ⟨hlen, rfl⟩
      rw [List.append_assoc, (readLength_iff _ _ _).2 ⟨hlen, rfl⟩]
      simp

section List

variable {α : Type} [Wire α]

theorem write_list (values : List α) :
    write values = write (UInt64.ofNat values.length) ++ values.flatMap write := rfl

theorem read_list (frame : Bytes) :
    (read frame : Option (List α × Bytes)) =
      (readLength frame).bind fun (count, rest) => readMany count rest := rfl

variable [Lawful α]

theorem readMany_iff (count : Nat) (frame : Bytes) (values : List α) (rest : Bytes) :
    readMany count frame = some (values, rest) ↔
      values.length = count ∧ (∀ v ∈ values, Fits v) ∧ frame = values.flatMap write ++ rest := by
  induction count generalizing frame values with
  | zero =>
    simp only [readMany, Option.some.injEq, Prod.mk.injEq, List.length_eq_zero_iff]
    constructor
    · rintro ⟨rfl, rfl⟩; simp
    · rintro ⟨rfl, -, rfl⟩; simp
  | succ count ih =>
    simp only [readMany, bind, Option.bind_eq_some_iff, Prod.exists, pure]
    constructor
    · rintro ⟨v, mid, h1, vs, tail, h2, heq⟩
      cases heq
      obtain ⟨hv, rfl⟩ := (Lawful.exact.read_iff _ _ _).1 h1
      obtain ⟨rfl, hvs, rfl⟩ := (ih _ _).1 h2
      exact ⟨rfl, by simpa using ⟨hv, hvs⟩, by simp⟩
    · rintro ⟨hlen, hfits, rfl⟩
      -- the first value is read off, and its rest holds the others
      rcases values with _ | ⟨v, vs⟩
      · simp at hlen
      · rw [List.forall_mem_cons] at hfits
        refine ⟨v, _, (Lawful.exact.read_iff _ _ _).2 ⟨hfits.1, ?_⟩, vs, rest,
          (ih _ _).2 ⟨by simpa using hlen, hfits.2, rfl⟩, rfl⟩
        simp

instance : Lawful (List α) where
  Fits values := values.length < 2 ^ 64 ∧ ∀ v ∈ values, Fits v
  exact := by
    constructor
    intro frame values rest
    rw [read_list, write_list]
    constructor
    · intro h
      obtain ⟨⟨count, tail⟩, hl, hm⟩ := Option.bind_eq_some_iff.1 h
      obtain ⟨hlt, rfl⟩ := (readLength_iff _ _ _).1 hl
      simp only at hm
      obtain ⟨rfl, hvs, rfl⟩ := (readMany_iff _ _ _ _).1 hm
      exact ⟨⟨hlt, hvs⟩, (List.append_assoc _ _ _).symm⟩
    · rintro ⟨⟨hlen, hfits⟩, rfl⟩
      rw [List.append_assoc, (readLength_iff _ _ _).2 ⟨hlen, rfl⟩]
      exact (readMany_iff _ _ _ _).2 ⟨rfl, hfits, rfl⟩

end List

/-! ## Records -/

namespace Exact

variable {α β : Type}

theorem field (α : Type) [Wire α] [Lawful α] (name : String) :
    Exact (Fields.field (α := α) name).write (Fields.field (α := α) name).read Fits :=
  Lawful.exact

/-- Fields after fields are read as they are written, one after the other. -/
theorem and {first : Fields α} {second : Fields β} {fits : α → Prop} {fits' : β → Prop}
    (h : Exact first.write first.read fits) (h' : Exact second.write second.read fits') :
    Exact (first.and second).write (first.and second).read (fun v => fits v.1 ∧ fits' v.2) := by
  constructor
  rintro frame ⟨a, b⟩ rest
  simp only [Fields.and, bind, Option.bind_eq_some_iff, Prod.exists, pure]
  constructor
  · rintro ⟨a', mid, h1, b', rest', h2, heq⟩
    cases heq
    obtain ⟨ha, rfl⟩ := (h.read_iff _ _ _).1 h1
    obtain ⟨hb, rfl⟩ := (h'.read_iff _ _ _).1 h2
    exact ⟨⟨ha, hb⟩, (List.append_assoc _ _ _).symm⟩
  · rintro ⟨⟨ha, hb⟩, rfl⟩
    rw [List.append_assoc]
    exact ⟨a, _, h.read_write ha _, b, rest, h'.read_write hb _, rfl⟩

end Exact

namespace Lawful

variable {α β : Type}

/-- The law of a type whose forms are those of its content. -/
@[reducible] def wrap [Wire β] [Lawful β] (content : α → β) (ofContent : β → α)
    (hc : ∀ a, ofContent (content a) = a := by intro; rfl)
    (ho : ∀ b, content (ofContent b) = b := by intro; rfl) :
    @Lawful α (Wire.wrap content ofContent) :=
  @Lawful.mk α (Wire.wrap content ofContent) (fun a => Fits (content a)) (Lawful.exact.comap hc ho)

/-- The law of a record type. -/
@[reducible] def record {fields : Fields β} {fits : β → Prop}
    (h : Exact fields.write fields.read fits) (content : α → β) (ofContent : β → α)
    (hc : ∀ a, ofContent (content a) = a := by intro; rfl)
    (ho : ∀ b, content (ofContent b) = b := by intro; rfl) :
    @Lawful α (Wire.record fields content ofContent) :=
  @Lawful.mk α (Wire.record fields content ofContent) (fun a => fits (content a)) (h.comap hc ho)

end Lawful

/-! ## Frames -/

/-- A frame decodes to a message exactly if it begins with the written message. -/
theorem decode_eq_ok_iff {α : Type} [Wire α] [Lawful α] (frame : Bytes) (message : α) :
    decode α frame = .ok message ↔ Fits message ∧ write message <+: frame := by
  unfold decode decode?
  constructor
  · intro h
    split at h
    · rename_i m hm
      cases h
      obtain ⟨⟨m, rest⟩, hr, rfl⟩ := Option.map_eq_some_iff.1 hm
      obtain ⟨hfits, rfl⟩ := (Lawful.exact.read_iff _ _ _).1 hr
      exact ⟨hfits, rest, rfl⟩
    · cases h
  · rintro ⟨hm, rest, rfl⟩
    rw [Lawful.exact.read_write hm, Option.map_some]

theorem decode_write {α : Type} [Wire α] [Lawful α] {message : α} (h : Fits message) :
    decode α (write message) = .ok message :=
  (decode_eq_ok_iff _ _).2 ⟨h, List.prefix_rfl⟩

end TwoParty.Wire
