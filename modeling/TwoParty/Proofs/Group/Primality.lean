/-
Lucas' test: a base of order `p - 1` modulo `p` shows that `p` is prime. Its powers are computed by
repeated squaring, so the test is fit for primes of hundreds of bits whose predecessors are
factored; factors that are large themselves are tested in the same way before.
-/
import TwoParty.Group.Residues
import TwoParty.Proofs.Group.Exponents
import Mathlib.Data.List.Prime
import Mathlib.NumberTheory.LucasPrimality

namespace TwoParty

theorem cast_powerModulo (p a e : Nat) : (powerModulo p a e : ZMod p) = (a : ZMod p) ^ e := by
  have hone : ((1 % p : Nat) : ZMod p) = 1 := by rw [ZMod.natCast_mod, Nat.cast_one]
  exact map_powerBy (φ := fun a : Nat => (a : ZMod p)) hone
    (fun a b => by rw [ZMod.natCast_mod, Nat.cast_mul]) a e

/-- Whether the base `a` has the order `p - 1`, which is the product of the factors. -/
def lucas (p a : Nat) (factors : List Nat) : Bool :=
  factors.prod + 1 == p && powerModulo p a (p - 1) == 1 &&
    factors.all fun q => powerModulo p a ((p - 1) / q) % p != 1 % p

theorem prime_of_lucas {p : Nat} (a : Nat) (small large : List Nat) (hsmall : ∀ q ∈ small, q.Prime)
    (hlarge : ∀ q ∈ large, q.Prime) (h : lucas p a (small ++ large) = true) : p.Prime := by
  unfold lucas at h
  simp only [Bool.and_eq_true, beq_iff_eq, List.all_eq_true, bne_iff_ne] at h
  obtain ⟨⟨hprod, hone⟩, hne⟩ := h
  have hfactors : ∀ q ∈ small ++ large, q.Prime := by
    rw [List.forall_mem_append]
    exact ⟨hsmall, hlarge⟩
  apply lucas_primality p (a : ZMod p)
  · rw [← cast_powerModulo, hone, Nat.cast_one]
  · intro q hq hdvd
    -- a prime that divides a product of primes is one of them
    have hmem : q ∈ small ++ large := by
      rw [← hprod, Nat.add_sub_cancel] at hdvd
      exact mem_list_primes_of_dvd_prod hq.prime (fun r hr => (hfactors r hr).prime) hdvd
    rw [← cast_powerModulo]
    intro h
    exact hne q hmem ((ZMod.natCast_eq_natCast_iff' _ _ _).1 (h.trans Nat.cast_one.symm))

end TwoParty
