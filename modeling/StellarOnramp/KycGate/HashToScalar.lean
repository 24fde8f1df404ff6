import StellarOnramp.KycGate.BbsForgery
import StellarOnramp.Library.ExpandMessage

/-! The verifier hashes to a scalar as the standard does: its two limbs and its constant stand
for one reduction of 48 octets.
-/

namespace StellarOnramp.KycGate.Bbs

open ExpandMessage Octets ScalarField

/-- The constant is what its name says. -/
theorem beNat_c256ModR : beNat c256ModR.val = 2 ^ 256 % scalarOrder := by
  decide +kernel

theorem fromBytes_c256ModR : Fr.fromBytes c256ModR.val = 2 ^ 256 := by
  rw [Fr.fromBytes, beNat_c256ModR, ZMod.natCast_mod]
  norm_num

theorem take_twoBlocks (first second : BytesN 32)
    : ([first, second].flatMap fun block => block.val).take 48
      = first.val ++ second.val.take 16 := by
  rw [List.flatMap_cons, List.take_append, first.property,
    List.take_of_length_le (by rw [first.property]; decide)]
  simp

/-- The expander of the verifier is the standard one for SHA-256 and 48 octets. -/
theorem expandMessageXmd_eq_some (host : Host) (msg : Bytes) {dst : Bytes}
    (tag : dst.length ≤ 255)
    : expandMessageXmd host.sha256 64 msg dst 48 = some (expandMessageXmd48 host msg dst).val := by
  have zeros : beBytes 64 0 = List.replicate 64 0 := by decide
  rw [expandMessageXmd, if_neg (by omega), zeros]
  exact congrArg some (take_twoBlocks _ _)

/-- Two limbs of 16 and of 32 octets are recombined to the whole number. -/
theorem fromBytes_limbs {uniform : Bytes} (length : uniform.length = 48)
    : Fr.fromBytes (List.replicate 16 0 ++ uniform.take 16) * Fr.fromBytes c256ModR.val
        + Fr.fromBytes (uniform.drop 16)
      = (beNat uniform : Fr) := by
  have low : (uniform.drop 16).length = 32 := by
    rw [List.length_drop]
    omega
  have whole := beNat_append (uniform.take 16) (uniform.drop 16)
  rw [List.take_append_drop, low] at whole
  rw [fromBytes_c256ModR, Fr.fromBytes, Fr.fromBytes, beNat_replicate_zero, whole]
  push_cast
  norm_num

/-- For every message and every tag that the standard allows, the verifier's scalar is the
number that the 48 octets of the standard expander spell, modulo the scalar order.
-/
theorem hashToScalar_eq_os2ip (host : Host) (msg dst : Bytes) (tag : dst.length ≤ 255)
    : beNat c256ModR.val = 2 ^ 256 % scalarOrder
      ∧ ∃ uniform,
          expandMessageXmd host.sha256 64 msg dst 48 = some uniform
          ∧ uniform.length = 48
          ∧ hashToScalar host msg dst = (beNat uniform : Fr)
          ∧ (hashToScalar host msg dst).val = beNat uniform % scalarOrder := by
  have expanded := expandMessageXmd_eq_some host msg tag
  have length := expandMessageXmd_length (by decide) expanded
  have reduced
      : hashToScalar host msg dst = (beNat (expandMessageXmd48 host msg dst).val : Fr) :=
    fromBytes_limbs length
  refine ⟨beNat_c256ModR, _, expanded, length, reduced, ?_⟩
  rw [reduced, ZMod.val_natCast]

/-- Hashing an empty message under the tag of the challenge. -/
theorem hashToScalar_eq_os2ip_empty
    : beNat c256ModR.val = 2 ^ 256 % scalarOrder
      ∧ ∃ uniform,
          expandMessageXmd (Sample.host 1).sha256 64 [] h2sDst 48 = some uniform
          ∧ uniform.length = 48
          ∧ hashToScalar (Sample.host 1) [] h2sDst = (beNat uniform : Fr)
          ∧ (hashToScalar (Sample.host 1) [] h2sDst).val = beNat uniform % scalarOrder :=
  hashToScalar_eq_os2ip (Sample.host 1) [] h2sDst (by decide)

end StellarOnramp.KycGate.Bbs
