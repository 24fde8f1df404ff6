import Mathlib.Data.List.Prime
import Mathlib.NumberTheory.LucasPrimality
import Mathlib.Tactic.NormNum.Prime
import Mathlib.Tactic.ReduceModChar
import StellarOnramp.Library.Octets

/-! The scalar field of the BLS12-381 groups. Its order is prime by a Lucas certificate, so
scalars can be divided, and scalars are read from octets modulo the order.
-/

namespace ScalarField

open Octets

/-- The order of the BLS12-381 groups. -/
def scalarOrder : Nat :=
  0x73eda753299d7d483339d80809a1d80553bda402fffe5bfeffffffff00000001

/-- The order as a decimal literal, which modular reduction can read. -/
theorem scalarOrder_eq
    : scalarOrder
      = 52435875175126190479447740508185965837690552500527637822603658699938581184513 :=
  rfl

/-- The prime factors of one less than the order, the powers of two apart. -/
def oddOrderFactors : List Nat :=
  [
    3, 11, 19, 10177, 125527, 859267, 906349, 906349, 2508409, 2529403, 52437899, 254760293,
    254760293
  ]

/-- The prime factors of one less than the order, with their multiplicities. -/
def orderFactors : List Nat := List.replicate 32 2 ++ oddOrderFactors

theorem orderFactors_prod : orderFactors.prod = scalarOrder - 1 := by
  rw [orderFactors, List.prod_append, List.prod_replicate]
  norm_num [oddOrderFactors, scalarOrder]

/-- Every listed factor is prime, by trial division. -/
theorem orderFactors_prime : ∀ factor ∈ orderFactors, Prime factor := by
  intro factor member
  rw [← Nat.prime_iff]
  rcases List.mem_append.mp member with even | odd
  · exact List.eq_of_mem_replicate even ▸ Nat.prime_two
  · simp only [oddOrderFactors, List.mem_cons, List.not_mem_nil, or_false] at odd
    rcases odd with rfl | rfl | rfl | rfl | rfl | rfl | rfl | rfl | rfl | rfl | rfl | rfl | rfl
      <;> norm_num

/-- The group order is prime. Witness: `7` generates the multiplicative group. -/
theorem scalarOrder_prime : scalarOrder.Prime := by
  refine lucas_primality scalarOrder 7 ?_ ?_
  · rw [scalarOrder_eq]
    reduce_mod_char
  · intro factor prime divides
    rw [← orderFactors_prod] at divides
    have member :=
      mem_list_primes_of_dvd_prod (Nat.prime_iff.mp prime) orderFactors_prime divides
    rw [scalarOrder_eq]
    rcases List.mem_append.mp member with even | odd
    · obtain rfl := List.eq_of_mem_replicate even
      norm_num
      reduce_mod_char
      decide
    · simp only [oddOrderFactors, List.mem_cons, List.not_mem_nil, or_false] at odd
      rcases odd
          with rfl | rfl | rfl | rfl | rfl | rfl | rfl | rfl | rfl | rfl | rfl | rfl | rfl
        <;> norm_num <;> reduce_mod_char <;> decide

instance : Fact scalarOrder.Prime := ⟨scalarOrder_prime⟩

/-- A scalar of the BLS12-381 groups. -/
abbrev Fr := ZMod scalarOrder

/-- The scalar that big-endian octets spell, reduced modulo the order. -/
def Fr.fromBytes (bytes : Bytes) : Fr := (beNat bytes : Fr)

/-- The canonical 32 octets of a scalar. -/
def Fr.toBytes (scalar : Fr) : BytesN 32 := ⟨beBytes 32 scalar.val, beBytes_length 32 _⟩

theorem Fr.val_lt_pow {scalar : Fr} : scalar.val < 256 ^ 32 :=
  lt_trans (ZMod.val_lt scalar) (by norm_num [scalarOrder])

/-- A scalar survives writing and reading back. -/
@[simp]
theorem Fr.fromBytes_toBytes (scalar : Fr) : Fr.fromBytes scalar.toBytes.val = scalar := by
  rw [Fr.fromBytes, Fr.toBytes, beNat_beBytes_of_lt Fr.val_lt_pow, ZMod.natCast_zmod_val]

end ScalarField
