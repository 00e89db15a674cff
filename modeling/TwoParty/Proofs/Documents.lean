/-
The readable form of messages: a document is read back as the message it was made of. A record is
read by the names of its fields, so the law of fields says that nothing counts but the members of
those names, and fields go together if they share no name.
-/
import TwoParty.Commitment.Hashed
import TwoParty.Transfer.Basic
import Mathlib.Tactic

namespace TwoParty

namespace Wire

/-- A type of message parts that are read back from their documents. -/
class Legible (α : Type) [Wire α] : Prop where
  ofDocument?_toDocument (a : α) : ofDocument? (toDocument a) = some a

export Legible (ofDocument?_toDocument)

namespace Legible

/-! ## Parts -/

instance : Legible UInt64 where
  ofDocument?_toDocument n := by
    show (if n.toNat < UInt64.size then some (UInt64.ofNat n.toNat) else none) = some n
    rw [if_pos n.toNat_lt, UInt64.ofNat_toNat]

instance : Legible Bytes where
  ofDocument?_toDocument bytes := by
    show Document.bytes? (.text ("0x" ++ bytes.toHex)) = some bytes
    have htext : ("0x" ++ bytes.toHex).toList = '0' :: 'x' :: Bytes.hexDigits bytes := by
      rw [String.toList_append, Bytes.toHex, String.toList_ofList]
      simp
    unfold Document.bytes?
    simp only [htext]
    exact Bytes.ofHexDigits?_hexDigits bytes

variable {α β : Type}

instance [Wire α] [Legible α] : Legible (List α) where
  ofDocument?_toDocument values := by
    show (values.map toDocument).mapM ofDocument? = some values
    induction values with
    | nil => rfl
    | cons value values ih =>
      rw [List.map_cons, List.mapM_cons, ofDocument?_toDocument, ih]
      rfl

theorem wrap [Wire β] [Legible β] (content : α → β) (ofContent : β → α)
    (hc : ∀ a, ofContent (content a) = a := by intro; rfl) :
    @Legible α (Wire.wrap content ofContent) :=
  @Legible.mk α (Wire.wrap content ofContent) fun a => by
    show (ofDocument? (toDocument (content a))).map ofContent = some a
    rw [ofDocument?_toDocument, Option.map_some, hc]

/-! ## Records -/

theorem lookup_eq_none_iff {members : List (String × Document)} {name : String} :
    members.lookup name = none ↔ name ∉ members.map Prod.fst := by
  rw [List.lookup_eq_none_iff]
  constructor
  · intro h hmem
    obtain ⟨member, hmember, rfl⟩ := List.mem_map.1 hmem
    simpa using h member hmember
  · intro h member hmember
    rw [bne_iff_ne]
    rintro rfl
    exact h (List.mem_map.2 ⟨member, hmember, rfl⟩)

/-- Fields of these names, which are read back from all members that agree with theirs. -/
structure Reads (fields : Fields α) (names : List String) : Prop where
  map_fst (a : α) : (fields.toFields a).map Prod.fst = names
  ofFields? (a : α) (members : List (String × Document))
    (agree : ∀ name ∈ names, members.lookup name = (fields.toFields a).lookup name) :
    fields.ofFields? members = some a

theorem Reads.field (α : Type) [Wire α] [Legible α] (name : String) :
    Reads (Fields.field (α := α) name) [name] where
  map_fst _ := rfl
  ofFields? a members agree := by
    have hmember : members.lookup name = some (toDocument a) := by
      rw [agree name List.mem_cons_self]
      exact List.lookup_cons_self
    show (members.lookup name).bind ofDocument? = some a
    rw [hmember, Option.bind_some, ofDocument?_toDocument]

theorem Reads.and {first : Fields α} {second : Fields β} {names names' : List String}
    (h : Reads first names) (h' : Reads second names')
    (hdisjoint : ∀ name ∈ names', name ∉ names := by decide) :
    Reads (first.and second) (names ++ names') where
  map_fst := by
    rintro ⟨a, b⟩
    show (first.toFields a ++ second.toFields b).map Prod.fst = names ++ names'
    rw [List.map_append, h.map_fst, h'.map_fst]
  ofFields? := by
    rintro ⟨a, b⟩ members agree
    have hlookup (name : String) : (first.toFields a ++ second.toFields b).lookup name =
        ((first.toFields a).lookup name).or ((second.toFields b).lookup name) :=
      List.lookup_append
    have hfirst : first.ofFields? members = some a := by
      refine h.ofFields? a members fun name hname => ?_
      rw [agree name (List.mem_append_left _ hname)]
      show (first.toFields a ++ second.toFields b).lookup name = _
      -- the name is there, so the second fields are not asked
      obtain ⟨document, hdocument⟩ : ∃ d, (first.toFields a).lookup name = some d := by
        rw [← Option.isSome_iff_exists, ← Option.ne_none_iff_isSome, ne_eq,
          lookup_eq_none_iff, h.map_fst]
        exact not_not_intro hname
      rw [hlookup, hdocument, Option.some_or]
    have hsecond : second.ofFields? members = some b := by
      refine h'.ofFields? b members fun name hname => ?_
      rw [agree name (List.mem_append_right _ hname)]
      show (first.toFields a ++ second.toFields b).lookup name = _
      have hnone : (first.toFields a).lookup name = none := by
        rw [lookup_eq_none_iff, h.map_fst]
        exact hdisjoint name hname
      rw [hlookup, hnone, Option.none_or]
    show (do
      let a ← first.ofFields? members
      let b ← second.ofFields? members
      return (a, b)) = some (a, b)
    rw [hfirst, hsecond]
    rfl

theorem record {fields : Fields β} {names : List String} (h : Reads fields names)
    (content : α → β) (ofContent : β → α)
    (hc : ∀ a, ofContent (content a) = a := by intro; rfl) :
    @Legible α (Wire.record fields content ofContent) :=
  @Legible.mk α (Wire.record fields content ofContent) fun a => by
    show (fields.ofFields? (fields.toFields (content a))).map ofContent = some a
    rw [h.ofFields? (content a) _ fun _ _ => rfl, Option.map_some, hc]

end Legible

end Wire

open Wire Wire.Legible Wire.Legible.Reads

/-! ## Messages -/

instance : Legible Challenge :=
  .wrap _ _

instance : Legible AnnouncementMessage :=
  .record (field (List Bytes) "elements") _ _

instance : Legible ResponseMessage :=
  .wrap _ _

instance : Legible KnowledgeMessage :=
  .record (.and (field ResponseMessage "z") (field Bytes "trapdoor"))
    (fun m : KnowledgeMessage => (m.z, m.trapdoor)) (fun (z, trapdoor) => ⟨z, trapdoor⟩)

namespace Pedersen

instance : Legible KeyMessage :=
  .record (field Bytes "h") _ _

instance : Legible CommitmentMessage :=
  .record (.and (field SessionId "id") (field Bytes "c"))
    (fun m : CommitmentMessage => (m.id, m.c)) (fun (id, c) => ⟨id, c⟩)

instance : Legible OpeningMessage :=
  .record (.and (field SessionId "id") (.and (field Bytes "x") (field Bytes "r")))
    (fun m : OpeningMessage => (m.id, m.x, m.r)) (fun (id, x, r) => ⟨id, x, r⟩)

instance : Legible ValueMessage :=
  .record (.and (field SessionId "id") (field Bytes "x"))
    (fun m : ValueMessage => (m.id, m.x)) (fun (id, x) => ⟨id, x⟩)

end Pedersen

namespace Hashed

instance : Legible CommitmentMessage :=
  .record (.and (field SessionId "id") (field Bytes "c"))
    (fun m : CommitmentMessage => (m.id, m.c)) (fun (id, c) => ⟨id, c⟩)

instance : Legible OpeningMessage :=
  .record (.and (field SessionId "id") (.and (field Bytes "r") (field Bytes "x")))
    (fun m : OpeningMessage => (m.id, m.r, m.x)) (fun (id, r, x) => ⟨id, r, x⟩)

end Hashed

namespace Transfer

instance : Legible SetupMessage :=
  .record (.and (field Bytes "g1") (.and (field Bytes "h0") (field Bytes "h1")))
    (fun m : SetupMessage => (m.g1, m.h0, m.h1)) (fun (g1, h0, h1) => ⟨g1, h0, h1⟩)

instance : Legible RequestMessage :=
  .record (.and (field Bytes "g_prime") (field Bytes "h_prime"))
    (fun m : RequestMessage => (m.g, m.h)) (fun (g, h) => ⟨g, h⟩)

instance : Legible AnswerMessage :=
  .record
    (.and (field Bytes "u0") (.and (field Bytes "c0") (.and (field Bytes "u1") (field Bytes "c1"))))
    (fun m : AnswerMessage => (m.u0, m.c0, m.u1, m.c1)) (fun (u0, c0, u1, c1) => ⟨u0, c0, u1, c1⟩)

end Transfer

end TwoParty
