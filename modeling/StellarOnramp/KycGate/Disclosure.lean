import StellarOnramp.KycGate.Contract

/-! How the gate reads disclosed messages: the first message at an index decides, the texts
it compares with determine the values they encode, and a claim bit is granted by one rule.
-/

namespace StellarOnramp.KycGate

open Octets

-----------------------------------------------------------------------------------------
-- The first disclosed message at an index
-----------------------------------------------------------------------------------------

/-- The first message disclosed at a schema index. -/
def firstDisclosed (indexes : List UInt32) (messages : List Bytes) (idx : UInt32)
    : Option Bytes :=
  ((indexes.zip messages).find? (fun pair => pair.1 == idx)).map Prod.snd

/-- The contract's octet comparison decides equality, by induction on both strings. -/
theorem bytesEq_iff (left right : Bytes) : bytesEq left right = true ↔ left = right := by
  unfold bytesEq
  split
  case isTrue lengths =>
    simp only [Bool.false_eq_true, false_iff]
    exact fun same => lengths (congrArg List.length same)
  case isFalse lengths =>
    replace lengths := not_not.mp lengths
    induction left generalizing right with
    | nil => simp [List.eq_nil_of_length_eq_zero (lengths.symm)]
    | cons head rest ih =>
        cases right with
        | nil => simp at lengths
        | cons other more =>
            simp only [List.zip_cons_cons, List.all_cons, Bool.and_eq_true, beq_iff_eq,
              List.cons.injEq]
            exact and_congr_right (fun _ => ih more (Nat.succ.inj lengths))

/-- The contract's lookup compares exactly the first disclosed message, by induction on the
parallel lists.
-/
theorem disclosedIs_iff {indexes : List UInt32} {messages : List Bytes} {idx : UInt32}
    {expected : Bytes}
    : disclosedIs indexes messages idx expected = true
      ↔ firstDisclosed indexes messages idx = some expected := by
  induction indexes generalizing messages with
  | nil => simp [disclosedIs, firstDisclosed]
  | cons index rest ih =>
      cases messages with
      | nil => simp [disclosedIs, firstDisclosed]
      | cons message more =>
          by_cases here : index = idx
          · simp [disclosedIs, firstDisclosed, here, bytesEq_iff]
          · simpa [disclosedIs, firstDisclosed, here] using @ih more

/-- A first disclosed message stands beside its index in the two lists. -/
theorem mem_zip_of_firstDisclosed {indexes : List UInt32} {messages : List Bytes}
    {idx : UInt32} {message : Bytes} (first : firstDisclosed indexes messages idx = some message)
    : (idx, message) ∈ indexes.zip messages := by
  obtain ⟨⟨index, found⟩, here, same⟩ := Option.map_eq_some_iff.mp first
  obtain rfl : found = message := same
  obtain rfl : index = idx := by simpa using List.find?_some here
  exact List.mem_of_find?_eq_some here

/-- An index without a first message stands beside no message. -/
theorem not_mem_zip_of_firstDisclosed {indexes : List UInt32} {messages : List Bytes}
    {idx : UInt32} (missing : firstDisclosed indexes messages idx = none) (message : Bytes)
    : (idx, message) ∉ indexes.zip messages := by
  intro member
  have absent := List.find?_eq_none.mp (Option.map_eq_none_iff.mp missing) _ member
  simp at absent

-----------------------------------------------------------------------------------------
-- Texts of issuer ids and revocation indexes
-----------------------------------------------------------------------------------------

/-- The digit loop writes decimal text in front of the buffer, by induction on the room. -/
theorem decimalLoop_eq (room value : Nat) (buf : Bytes) (positive : 0 < value)
    (fits : value < 10 ^ room)
    : decimalLoop room value buf = decimalText value ++ buf := by
  induction room generalizing value buf with
  | zero => simp at fits; omega
  | succ room ih =>
      rw [decimalLoop, if_neg (by omega)]
      by_cases small : value < 10
      · have done : decimalLoop room (value / 10) ((48 + UInt8.ofNat (value % 10)) :: buf)
            = (48 + UInt8.ofNat (value % 10)) :: buf := by
          rw [Nat.div_eq_of_lt small]
          cases room <;> rfl
        rw [done, decimalText_of_lt small, Nat.mod_eq_of_lt small]
        rfl
      · have large : 10 ≤ value := Nat.le_of_not_lt small
        have shorter : value / 10 < 10 ^ room := by
          rw [pow_succ] at fits
          omega
        rw [ih _ _ (by omega) shorter, decimalText_of_le large, List.append_assoc]
        rfl

/-- The contract's ten-digit buffer holds every 32-bit number. -/
theorem decimal_eq (value : UInt32) : decimal value = decimalText value.toNat := by
  unfold decimal
  split
  case isTrue zero =>
    subst zero
    decide
  case isFalse nonzero =>
    have positive : 0 < value.toNat := by
      refine Nat.pos_of_ne_zero (fun zero => nonzero ?_)
      exact UInt32.toNat_inj.mp zero
    have small := value.toNat_lt
    rw [decimalLoop_eq 10 value.toNat [] positive (by omega), List.append_nil]

/-- The issuer text determines the issuer. -/
theorem expectedIssuer_injective : Function.Injective expectedIssuer := by
  intro left right same
  exact Subtype.ext (hexText_injective (List.append_cancel_left same))

/-- The revocation index text determines the index. -/
theorem expectedRevIndex_injective : Function.Injective expectedRevIndex := by
  intro left right same
  have texts : decimal left = decimal right := List.append_cancel_left same
  rw [decimal_eq, decimal_eq] at texts
  exact UInt32.toNat_inj.mp (decimalText_injective texts)

-----------------------------------------------------------------------------------------
-- Claim bits
-----------------------------------------------------------------------------------------

/-- A disclosed message that grants a claim bit. -/
structure ClaimRule where
  index : UInt32
  message : Bytes
  bit : UInt32

/-- The four chain-backed claims, each granted by one exact message at one schema index. -/
def claimRules : List ClaimRule :=
  [
    { index := 6, message := ascii "over18=true", bit := claimOver18 },
    { index := 7, message := ascii "over21=true", bit := claimOver21 },
    { index := 8, message := ascii "notSanctioned=true", bit := claimNotSanctioned },
    { index := 10, message := ascii "jurisdictionOk=true", bit := claimJurisdictionOk }
  ]

def ClaimRule.Granted (rule : ClaimRule) (indexes : List UInt32) (messages : List Bytes)
    : Prop :=
  firstDisclosed indexes messages rule.index = some rule.message

/-- Or-ing the bits of the rules that hold sets exactly their bits, by induction on the
rules.
-/
theorem foldl_or_testBit {Rule : Type} (rules : List Rule) (holds : Rule → Bool)
    (bit : Rule → UInt32) (derived : UInt32) (position : Nat)
    : (rules.foldl (fun derived rule => if holds rule then derived ||| bit rule else derived)
          derived).toNat.testBit position = true
      ↔ derived.toNat.testBit position = true
        ∨ ∃ rule ∈ rules, holds rule = true ∧ (bit rule).toNat.testBit position = true := by
  induction rules generalizing derived with
  | nil => simp
  | cons rule rest ih =>
      rw [List.foldl_cons, ih]
      by_cases granted : holds rule = true
      · simp [granted, Nat.testBit_or, or_assoc]
      · simp [granted]

/-- The derived bitmap is the union of the granted rules' bits. -/
theorem derivedClaims_eq (indexes : List UInt32) (messages : List Bytes)
    : derivedClaims indexes messages
      = claimRules.foldl
          (fun derived rule =>
            if disclosedIs indexes messages rule.index rule.message then
              derived ||| rule.bit
            else
              derived)
          0 :=
  rfl

/-- Every rule's bit is a power of two. -/
theorem claimRules_single {rule : ClaimRule} (member : rule ∈ claimRules) (position : Nat)
    : rule.bit.toNat.testBit position = true ↔ rule.bit.toNat = 2 ^ position := by
  have power : ∃ exponent, rule.bit.toNat = 2 ^ exponent := by
    simp only [claimRules, List.mem_cons, List.not_mem_nil, or_false] at member
    rcases member with rfl | rfl | rfl | rfl
    · exact ⟨0, rfl⟩
    · exact ⟨1, rfl⟩
    · exact ⟨2, rfl⟩
    · exact ⟨3, rfl⟩
  obtain ⟨exponent, value⟩ := power
  rw [value, Nat.testBit_two_pow, decide_eq_true_iff]
  exact ⟨fun same => same ▸ rfl, fun same => Nat.pow_right_injective (Nat.le_refl 2) same⟩

/-- A bit is derived exactly when the rule for it is granted. -/
theorem derivedClaims_testBit {indexes : List UInt32} {messages : List Bytes} {position : Nat}
    : (derivedClaims indexes messages).toNat.testBit position = true
      ↔ ∃ rule ∈ claimRules,
          rule.bit.toNat = 2 ^ position ∧ rule.Granted indexes messages := by
  rw [derivedClaims_eq, foldl_or_testBit claimRules
    (fun rule => disclosedIs indexes messages rule.index rule.message) ClaimRule.bit]
  simp only [UInt32.toNat_zero, Nat.zero_testBit, Bool.false_eq_true, false_or,
    disclosedIs_iff, ClaimRule.Granted]
  constructor
  · rintro ⟨rule, member, granted, set⟩
    exact ⟨rule, member, (claimRules_single member position).mp set, granted⟩
  · rintro ⟨rule, member, single, granted⟩
    exact ⟨rule, member, granted, (claimRules_single member position).mpr single⟩

/-- Masking out a set of bits leaves nothing exactly for its subsets. -/
theorem and_not_eq_zero_iff (left right : UInt32)
    : left &&& ~~~ right = 0
      ↔ ∀ position, left.toNat.testBit position = true → right.toNat.testBit position = true := by
  have bits (position : Nat) (value : UInt32)
      : value.toNat.testBit position = value.toBitVec.getLsbD position := rfl
  rw [← UInt32.toBitVec_inj]
  simp only [bits]
  constructor
  · intro masked position set
    have bit := congrArg (fun vector => vector.getLsbD position) masked
    have inside := BitVec.lt_of_getLsbD set
    simpa [set, inside] using bit
  · intro subset
    refine BitVec.eq_of_getLsbD_eq (fun position inside => ?_)
    by_cases set : left.toBitVec.getLsbD position = true
    · simp [subset position set]
    · simp [set]

/-- A bitmap answers a mask exactly when it has every bit of the mask. -/
theorem and_eq_mask_iff (claims mask : UInt32)
    : claims &&& mask = mask
      ↔ ∀ position, mask.toNat.testBit position = true → claims.toNat.testBit position = true := by
  rw [← UInt32.toNat_inj, UInt32.toNat_and]
  constructor
  · intro same position set
    have bit := congrArg (fun value => value.testBit position) same
    simpa [Nat.testBit_and, set] using bit
  · intro subset
    apply Nat.eq_of_testBit_eq
    intro position
    rw [Nat.testBit_and]
    cases set : mask.toNat.testBit position with
    | false => rw [Bool.and_false]
    | true => rw [subset position set, Bool.and_self]

end StellarOnramp.KycGate
