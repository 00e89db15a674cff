/-
Every message of the protocols is read back from its binary form. A message fits if its byte
strings and its list have lengths below two to the sixty-four.
-/
import TwoParty.Commitment.Hashed
import TwoParty.Proofs.Wire
import TwoParty.Transfer.Basic

namespace TwoParty

open Wire Wire.Exact

/-! ## Proofs -/

instance : Lawful Challenge :=
  .wrap _ _

instance : Lawful AnnouncementMessage :=
  .record (field (List Bytes) "elements") _ _

instance : Lawful ResponseMessage :=
  .wrap _ _

instance : Lawful KnowledgeMessage :=
  .record (.and (field ResponseMessage "z") (field Bytes "trapdoor"))
    (fun m : KnowledgeMessage => (m.z, m.trapdoor)) (fun (z, trapdoor) => ⟨z, trapdoor⟩)

/-! ## Commitments -/

namespace Pedersen

instance : Lawful KeyMessage :=
  .record (field Bytes "h") _ _

instance : Lawful CommitmentMessage :=
  .record (.and (field SessionId "id") (field Bytes "c"))
    (fun m : CommitmentMessage => (m.id, m.c)) (fun (id, c) => ⟨id, c⟩)

instance : Lawful OpeningMessage :=
  .record (.and (field SessionId "id") (.and (field Bytes "x") (field Bytes "r")))
    (fun m : OpeningMessage => (m.id, m.x, m.r)) (fun (id, x, r) => ⟨id, x, r⟩)

instance : Lawful ValueMessage :=
  .record (.and (field SessionId "id") (field Bytes "x"))
    (fun m : ValueMessage => (m.id, m.x)) (fun (id, x) => ⟨id, x⟩)

end Pedersen

namespace Hashed

instance : Lawful CommitmentMessage :=
  .record (.and (field SessionId "id") (field Bytes "c"))
    (fun m : CommitmentMessage => (m.id, m.c)) (fun (id, c) => ⟨id, c⟩)

instance : Lawful OpeningMessage :=
  .record (.and (field SessionId "id") (.and (field Bytes "r") (field Bytes "x")))
    (fun m : OpeningMessage => (m.id, m.r, m.x)) (fun (id, r, x) => ⟨id, r, x⟩)

end Hashed

/-! ## Transfers -/

namespace Transfer

instance : Lawful SetupMessage :=
  .record (.and (field Bytes "g1") (.and (field Bytes "h0") (field Bytes "h1")))
    (fun m : SetupMessage => (m.g1, m.h0, m.h1)) (fun (g1, h0, h1) => ⟨g1, h0, h1⟩)

instance : Lawful RequestMessage :=
  .record (.and (field Bytes "g_prime") (field Bytes "h_prime"))
    (fun m : RequestMessage => (m.g, m.h)) (fun (g, h) => ⟨g, h⟩)

instance : Lawful AnswerMessage :=
  .record
    (.and (field Bytes "u0") (.and (field Bytes "c0") (.and (field Bytes "u1") (field Bytes "c1"))))
    (fun m : AnswerMessage => (m.u0, m.c0, m.u1, m.c1)) (fun (u0, c0, u1, c1) => ⟨u0, c0, u1, c1⟩)

end Transfer

end TwoParty
