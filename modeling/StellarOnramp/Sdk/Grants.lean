import StellarOnramp.Gateway.Claims
import StellarOnramp.Identity.Credential
import StellarOnramp.KycGate.Disclosure

/-! The claims argument, derived from what a proof discloses. It mirrors the gate's own
derivation from the same messages.
-/

namespace StellarOnramp.Sdk

open JsText Octets
open StellarOnramp.Gateway
open StellarOnramp.Identity

/-- A disclosed message that grants a bit. -/
structure Grant where
  index : Number
  message : JsString
  bit : Nat

def attestGrants : List Grant :=
  [
    { index := claimIndex .over18, message := js "over18=true", bit := claimOver18 },
    { index := claimIndex .over21, message := js "over21=true", bit := claimOver21 },
    {
      index := claimIndex .notSanctioned
      message := js "notSanctioned=true"
      bit := claimNotSanctioned
    },
    {
      index := claimIndex .jurisdictionOk
      message := js "jurisdictionOk=true"
      bit := claimJurisdictionOk
    }
  ]

/-- Whether the first disclosed message at the grant's index is the grant's. -/
def Grant.holds (grant : Grant) (disclosedIndexes : List Number)
    (disclosedMessages : List JsString)
    : Bool :=
  match disclosedIndexes.idxOf? grant.index with
  | some position => disclosedMessages[position]? == some grant.message
  | none => false

/-- The claims that a proof may request. -/
def deriveGrantedClaims (disclosedIndexes : List Number) (disclosedMessages : List JsString)
    : Nat :=
  attestGrants.foldl
    (fun bits grant =>
      if grant.holds disclosedIndexes disclosedMessages then bits ||| grant.bit else bits)
    0

-----------------------------------------------------------------------------------------
-- The mirror is exact
-----------------------------------------------------------------------------------------

/-- An index as the gate receives it. -/
def wireIndex (index : Number) : UInt32 := UInt32.ofNat index.toNat

/-- Indexes that fit 32 bits are the same on both sides. -/
theorem wireIndex_eq_iff {index : Int} {idx : UInt32} (fits : 0 ≤ index ∧ index < 2 ^ 32)
    : wireIndex index = idx ↔ index = idx.toNat := by
  have small : index.toNat < 2 ^ 32 := by omega
  rw [wireIndex, ← UInt32.toNat_inj, UInt32.toNat_ofNat', Nat.mod_eq_of_lt small]
  omega

/-- A grant is the gate's rule in the client's own types. -/
structure Mirrors (grant : Grant) (rule : KycGate.ClaimRule) : Prop where
  index : grant.index = rule.index.toNat
  message : grant.message = ofOctets rule.message
  plain : isAscii rule.message = true
  bit : grant.bit = rule.bit.toNat

/-- The four grants are the gate's four rules. -/
theorem attestGrants_mirror : List.Forall₂ Mirrors attestGrants KycGate.claimRules :=
  .cons ⟨rfl, rfl, rfl, rfl⟩
    (.cons ⟨rfl, rfl, rfl, rfl⟩
      (.cons ⟨rfl, rfl, rfl, rfl⟩ (.cons ⟨rfl, rfl, rfl, rfl⟩ .nil)))

/-- A grant holds exactly when the gate finds its octets, by induction on the disclosure. -/
theorem Mirrors.holds_eq {grant : Grant} {rule : KycGate.ClaimRule}
    (mirrors : Mirrors grant rule) {indexes : List Number} {messages : List JsString}
    (fits : ∀ index ∈ indexes, 0 ≤ index ∧ index < 2 ^ 32)
    : grant.holds indexes messages
      = KycGate.disclosedIs (indexes.map wireIndex) (messages.map utf8ToBytes) rule.index
          rule.message := by
  induction indexes generalizing messages with
  | nil => rfl
  | cons index rest ih =>
      rcases List.forall_mem_cons.mp fits with ⟨here, later⟩
      rw [Grant.holds, List.idxOf?_cons]
      cases messages with
      | nil => split <;> simp [KycGate.disclosedIs]
      | cons message more =>
          rw [List.map_cons, List.map_cons, KycGate.disclosedIs]
          by_cases same : index = grant.index
          · have found : wireIndex index = rule.index :=
              (wireIndex_eq_iff here).mpr (same.trans mirrors.index)
            rw [if_pos found, same, beq_self_eq_true, if_pos rfl, Bool.eq_iff_iff,
              KycGate.bytesEq_iff, utf8ToBytes_eq_iff mirrors.plain, ← mirrors.message]
            simp
          · have other : wireIndex index ≠ rule.index := fun found =>
              same (((wireIndex_eq_iff here).mp found).trans mirrors.index.symm)
            have apart : (index == grant.index) = false := beq_eq_false_iff_ne.mpr same
            rw [if_neg other, ← ih later, apart]
            simp only [Bool.false_eq_true, ↓reduceIte, Grant.holds]
            cases rest.idxOf? grant.index <;> simp

/-- Mirrored rules or together the same bits, by induction on both lists. -/
theorem foldl_mirrors {grants : List Grant} {rules : List KycGate.ClaimRule}
    (mirrored : List.Forall₂ Mirrors grants rules) {holds : Grant → Bool}
    {granted : KycGate.ClaimRule → Bool}
    (same : ∀ grant rule, Mirrors grant rule → holds grant = granted rule)
    (derived : UInt32)
    : grants.foldl (fun bits grant => if holds grant then bits ||| grant.bit else bits)
        derived.toNat
      = (rules.foldl (fun bits rule => if granted rule then bits ||| rule.bit else bits)
          derived).toNat := by
  induction mirrored generalizing derived with
  | nil => rfl
  | cons mirrors rest ih =>
      rw [List.foldl_cons, List.foldl_cons, ← ih, same _ _ mirrors]
      split
      case isTrue => rw [UInt32.toNat_or, mirrors.bit]
      case isFalse => rfl

/-- The derived claims are what the gate derives from the same disclosure, whatever the
messages are.
-/
theorem deriveGrantedClaims_eq {indexes : List Number} {messages : List JsString}
    (fits : ∀ index ∈ indexes, 0 ≤ index ∧ index < 2 ^ 32)
    : deriveGrantedClaims indexes messages
      = (KycGate.derivedClaims (indexes.map wireIndex) (messages.map utf8ToBytes)).toNat :=
  foldl_mirrors attestGrants_mirror (fun _ _ mirrors => mirrors.holds_eq fits) 0

end StellarOnramp.Sdk
