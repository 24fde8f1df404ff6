import StellarOnramp.Identity.Schema

/-! The six booleans that the gateway signs, and the bitmap that the chain keeps of them. -/

namespace StellarOnramp.Gateway

open StellarOnramp.Identity

/-- The gateway's copies of the gate's claim bits. -/
def claimOver18 : Nat := 1 <<< 0
def claimOver21 : Nat := 1 <<< 1
def claimNotSanctioned : Nat := 1 <<< 2
def claimJurisdictionOk : Nat := 1 <<< 3

/-- The bits of the claims that the chain carries; it carries four of the six booleans. -/
def claimBitByName : ClaimName → Option Nat
  | .over18 => some claimOver18
  | .over21 => some claimOver21
  | .notSanctioned => some claimNotSanctioned
  | .jurisdictionOk => some claimJurisdictionOk
  | _ => none

def booleanClaimNames : List ClaimName :=
  [.over18, .over21, .notSanctioned, .notPep, .jurisdictionOk, .livenessOk]

/-- The six booleans that travel into the credential. -/
structure ClaimSet where
  over18 : Bool
  over21 : Bool
  notSanctioned : Bool
  notPep : Bool
  jurisdictionOk : Bool
  livenessOk : Bool
  deriving DecidableEq

/-- A boolean by its name; the other claims are not in the set. -/
def ClaimSet.value (claims : ClaimSet) : ClaimName → Bool
  | .over18 => claims.over18
  | .over21 => claims.over21
  | .notSanctioned => claims.notSanctioned
  | .notPep => claims.notPep
  | .jurisdictionOk => claims.jurisdictionOk
  | .livenessOk => claims.livenessOk
  | _ => false

/-- A false claim contributes no bit. -/
def claimBitmap (claims : ClaimSet) : Nat :=
  booleanClaimNames.foldl
    (fun bitmap name =>
      match claimBitByName name with
      | none => bitmap
      | some bit => if claims.value name then bitmap ||| bit else bitmap)
    0

-----------------------------------------------------------------------------------------
-- Bits of the bitmap
-----------------------------------------------------------------------------------------

/-- The names that set a position of the bitmap. -/
def SetsBit (claims : ClaimSet) (position : Nat) (name : ClaimName) : Prop :=
  ∃ bit,
    claimBitByName name = some bit
    ∧ bit.testBit position = true
    ∧ claims.value name = true

/-- Bits are only added, by induction on the names. -/
theorem foldl_bits_testBit (claims : ClaimSet) (names : List ClaimName) (bitmap position : Nat)
    : (names.foldl
          (fun bitmap name =>
            match claimBitByName name with
            | none => bitmap
            | some bit => if claims.value name then bitmap ||| bit else bitmap)
          bitmap).testBit position
        = true
      ↔ bitmap.testBit position = true ∨ ∃ name ∈ names, SetsBit claims position name := by
  induction names generalizing bitmap with
  | nil => simp
  | cons name rest ih =>
      rw [List.foldl_cons, ih, List.exists_mem_cons_iff, ← or_assoc]
      apply or_congr_left
      unfold SetsBit
      cases claimBitByName name with
      | none => simp
      | some bit =>
          by_cases held : claims.value name = true
          · simp [held, Nat.testBit_or]
          · simp [held]

/-- A position of the bitmap is set exactly by the true claims that the chain carries there. -/
theorem claimBitmap_testBit (claims : ClaimSet) (position : Nat)
    : (claimBitmap claims).testBit position = true ↔ ∃ name, SetsBit claims position name := by
  rw [claimBitmap, foldl_bits_testBit, Nat.zero_testBit]
  constructor
  · intro set
    rcases set with impossible | ⟨name, -, sets⟩
    · cases impossible
    · exact ⟨name, sets⟩
  · intro set
    obtain ⟨name, sets⟩ := set
    have listed (name : ClaimName) (carried : (claimBitByName name).isSome = true)
        : name ∈ booleanClaimNames := by
      revert carried
      cases name <;> decide
    refine Or.inr ⟨name, listed name ?_, sets⟩
    obtain ⟨bit, carried, -⟩ := sets
    rw [carried]
    rfl

end StellarOnramp.Gateway
