/-
Messages on the wire. Each message type has a binary form, which is what a channel carries, and a
readable form, a document. The binary form is self-delimiting: reading takes the form off the front
of a frame and leaves the rest.
-/
import TwoParty.Bytes
import TwoParty.Error

namespace TwoParty

/-! ## Documents -/

/-- A structured document, as far as messages need one. -/
inductive Document where
  | natural (n : Nat)
  | text (content : String)
  | list (items : List Document)
  | record (fields : List (String × Document))
  /-- Anything that stands for no part of a message. -/
  | other
deriving Inhabited

namespace Document

/-- Bytes as a text: `0x` and their hexadecimal digits. -/
def ofBytes (bytes : Bytes) : Document :=
  .text ("0x" ++ bytes.toHex)

/-- Reads bytes from a text of `0x` and hexadecimal digits of either case. -/
def bytes? : Document → Option Bytes
  | .text content =>
    match content.toList with
    | '0' :: 'x' :: digits => Bytes.ofHexDigits? digits
    | _ => none
  | _ => none

end Document

/-! ## Formats -/

/-- A type of message parts with a binary and a readable form. -/
class Wire (α : Type) where
  write : α → Bytes
  /-- The value at the front of the bytes and what follows it, unless the bytes end too early. -/
  read : Bytes → Option (α × Bytes)
  toDocument : α → Document
  ofDocument? : Document → Option α

namespace Wire

/-- The message that a frame begins with; what follows it is ignored. -/
def decode? {α : Type} [Wire α] (frame : Bytes) : Option α :=
  (read frame).map Prod.fst

/-- The message that a frame begins with, or the error of a frame that ends too early. -/
def decode (α : Type) [Wire α] (frame : Bytes) : Except ChannelError α :=
  match decode? frame with
  | some message => .ok message
  | none => .error (.malformed "the frame ends too early")

/-- An integer of sixty-four bits: eight bytes, the least significant first. -/
instance : Wire UInt64 where
  write n := Bytes.toLittleEndian 8 n.toNat
  read bytes :=
    if bytes.length < 8 then none
    else some (UInt64.ofNat (Bytes.littleEndian (bytes.take 8)), bytes.drop 8)
  toDocument n := .natural n.toNat
  ofDocument?
    | .natural n => if n < UInt64.size then some (UInt64.ofNat n) else none
    | _ => none

/-- A length or a count, as an integer of sixty-four bits. -/
def readLength (bytes : Bytes) : Option (Nat × Bytes) :=
  (read bytes : Option (UInt64 × Bytes)).map fun (n, rest) => (n.toNat, rest)

/-- Reads `count` values one after the other. -/
def readMany {α : Type} [Wire α] : (count : Nat) → Bytes → Option (List α × Bytes)
  | 0, bytes => some ([], bytes)
  | count + 1, bytes => do
    let (value, rest) ← read bytes
    let (values, rest) ← readMany count rest
    return (value :: values, rest)

/-- A list: the count, then the items. -/
instance {α : Type} [Wire α] : Wire (List α) where
  write values := write (UInt64.ofNat values.length) ++ values.flatMap write
  read bytes := do
    let (count, rest) ← readLength bytes
    readMany count rest
  toDocument values := .list (values.map toDocument)
  ofDocument?
    | .list items => items.mapM ofDocument?
    | _ => none

/-- A byte string: the length, then the bytes. -/
instance : Wire Bytes where
  write bytes := write (UInt64.ofNat bytes.length) ++ bytes
  read bytes := do
    let (length, rest) ← readLength bytes
    if rest.length < length then none else some (rest.take length, rest.drop length)
  toDocument := Document.ofBytes
  ofDocument? := Document.bytes?

/-- A type whose forms are those of its only content. -/
@[reducible] def wrap {α β : Type} [Wire β] (content : α → β) (ofContent : β → α) : Wire α where
  write a := write (content a)
  read bytes := (read bytes).map fun (b, rest) => (ofContent b, rest)
  toDocument a := toDocument (content a)
  ofDocument? document := (ofDocument? document).map ofContent

/-! ## Records -/

/-- The fields of a record in order: one after the other in binary, by name in a document. A
document may also list the fields without their names. -/
structure Fields (α : Type) where
  write : α → Bytes
  read : Bytes → Option (α × Bytes)
  toFields : α → List (String × Document)
  /-- Reads the fields by name; fields of other names are ignored. -/
  ofFields? : List (String × Document) → Option α
  /-- Takes the fields off the front of a list. -/
  ofItems? : List Document → Option (α × List Document)

namespace Fields

def field {α : Type} (name : String) [Wire α] : Fields α where
  write := Wire.write
  read := Wire.read
  toFields a := [(name, toDocument a)]
  ofFields? fields := (fields.lookup name).bind ofDocument?
  ofItems?
    | [] => none
    | item :: rest => (ofDocument? item).map fun a => (a, rest)

def and {α β : Type} (first : Fields α) (second : Fields β) : Fields (α × β) where
  write := fun (a, b) => first.write a ++ second.write b
  read bytes := do
    let (a, rest) ← first.read bytes
    let (b, rest) ← second.read rest
    return ((a, b), rest)
  toFields := fun (a, b) => first.toFields a ++ second.toFields b
  ofFields? fields := do
    let a ← first.ofFields? fields
    let b ← second.ofFields? fields
    return (a, b)
  ofItems? items := do
    let (a, rest) ← first.ofItems? items
    let (b, rest) ← second.ofItems? rest
    return ((a, b), rest)

end Fields

@[reducible] def record {α β : Type} (fields : Fields β) (content : α → β) (ofContent : β → α) :
    Wire α where
  write a := fields.write (content a)
  read bytes := (fields.read bytes).map fun (b, rest) => (ofContent b, rest)
  toDocument a := .record (fields.toFields (content a))
  ofDocument?
    | .record members => (fields.ofFields? members).map ofContent
    | .list items =>
      match fields.ofItems? items with
      | some (b, []) => some (ofContent b)
      | _ => none
    | _ => none

end Wire

end TwoParty
