import StellarOnramp.Sdk.Grants

/-! One claim set through three codebases: the issuer writes its messages, the client derives
the claims argument from the disclosed ones, and the gate compares and derives again.
-/

namespace StellarOnramp.Sdk

open Attempts JsText Octets
open StellarOnramp.Gateway
open StellarOnramp.Identity

/-- The messages that a disclosure shows at its indexes. -/
structure Discloses (messages : List JsString) (indexes : List Number)
    (disclosed : List JsString)
    : Prop where
  natural : ∀ index ∈ indexes, 0 ≤ index
  parallel : indexes.map (fun index => messages[index.toNat]?) = disclosed.map some

theorem Discloses.cons {messages : List JsString} {index : Number} {rest : List Number}
    {disclosed : List JsString} (discloses : Discloses messages (index :: rest) disclosed)
    : ∃ message more,
        disclosed = message :: more
        ∧ 0 ≤ index
        ∧ messages[index.toNat]? = some message
        ∧ Discloses messages rest more := by
  rcases discloses with ⟨natural, parallel⟩
  cases disclosed with
  | nil => cases parallel
  | cons message more =>
      rw [List.map_cons, List.map_cons, List.cons.injEq] at parallel
      rcases List.forall_mem_cons.mp natural with ⟨here, later⟩
      exact ⟨message, more, rfl, here, parallel.1, later, parallel.2⟩

/-- Disclosed indexes stand in the schema. -/
theorem Discloses.lt {messages : List JsString} {indexes : List Number}
    {disclosed : List JsString} (discloses : Discloses messages indexes disclosed)
    : ∀ index ∈ indexes, 0 ≤ index ∧ index.toNat < messages.length := by
  induction indexes generalizing disclosed with
  | nil => exact fun index member => absurd member List.not_mem_nil
  | cons index rest ih =>
      obtain ⟨message, more, rfl, natural, held, later⟩ := discloses.cons
      refine List.forall_mem_cons.mpr ⟨⟨natural, ?_⟩, ih later⟩
      exact (List.getElem?_eq_some_iff.mp held).1

/-- Disclosed indexes fit the wire. -/
theorem Discloses.fits {messages : List JsString} {indexes : List Number}
    {disclosed : List JsString} (discloses : Discloses messages indexes disclosed)
    (schema : messages.length = schemaAttributeCount)
    : ∀ index ∈ indexes, 0 ≤ index ∧ index < 2 ^ 32 := by
  intro index member
  have bounds := discloses.lt index member
  have range (index : Int) (bounds : 0 ≤ index ∧ index.toNat < 12)
      : 0 ≤ index ∧ index < 2 ^ 32 := by
    omega
  exact range index ⟨bounds.1, Nat.lt_of_lt_of_eq bounds.2 schema⟩

/-- The gate finds at a schema index exactly the credential's message, when the index is
disclosed; by induction on the disclosure.
-/
theorem Discloses.disclosedIs_iff {messages : List JsString} {indexes : List Number}
    {disclosed : List JsString} (discloses : Discloses messages indexes disclosed)
    (schema : messages.length = schemaAttributeCount) (idx : Nat)
    {message : JsString} (held : messages[idx]? = some message) (expected : Bytes)
    : KycGate.disclosedIs (indexes.map wireIndex) (disclosed.map utf8ToBytes)
          (UInt32.ofNat idx) expected
        = true
      ↔ (idx : Number) ∈ indexes ∧ utf8ToBytes message = expected := by
  have small : idx < 12 :=
    Nat.lt_of_lt_of_eq (List.getElem?_eq_some_iff.mp held).1 schema
  induction indexes generalizing disclosed with
  | nil => simp [KycGate.disclosedIs]
  | cons index rest ih =>
      obtain ⟨first, more, rfl, natural, here, later⟩ := discloses.cons
      have bound : index.toNat < 12 :=
        Nat.lt_of_lt_of_eq (List.getElem?_eq_some_iff.mp here).1 schema
      have wire (index : Int) (natural : 0 ≤ index) (bound : index.toNat < 12)
          : wireIndex index = UInt32.ofNat idx ↔ index = idx := by
        rw [wireIndex_eq_iff (by omega), UInt32.toNat_ofNat', Nat.mod_eq_of_lt (by omega)]
      rw [List.map_cons, List.map_cons, KycGate.disclosedIs]
      by_cases same : index = idx
      · have message_eq : first = message := by
          rw [same, Int.toNat_natCast, held] at here
          exact (Option.some.inj here).symm
        rw [if_pos ((wire index natural bound).mpr same), KycGate.bytesEq_iff, message_eq]
        simp [same]
      · have other : (idx : Number) ≠ index := fun equal => same equal.symm
        rw [if_neg (fun found => same ((wire index natural bound).mp found))]
        refine (ih later).trans (and_congr_left fun _ => ?_)
        rw [List.mem_cons, or_iff_right other]

-----------------------------------------------------------------------------------------
-- Issuer id and revocation index
-----------------------------------------------------------------------------------------

theorem isAscii_decimalText (value : Nat) : isAscii (decimalText value) = true := by
  rw [isAscii, decimalText, List.all_map, List.all_eq_true]
  intro char member
  have digit := Nat.isDigit_of_mem_toDigits (by decide) (by decide) member
  have small : char.toNat ≤ '9'.toNat := (Char.isDigit_iff_toNat.mp digit).2
  have fits : char.toNat < 256 := Nat.lt_of_le_of_lt small (by decide)
  rw [Function.comp_apply, decide_eq_true_eq, UInt8.lt_iff_toNat_lt, UInt8.toNat_ofNat',
    Nat.mod_eq_of_lt fits]
  exact Nat.lt_of_le_of_lt small (by decide)

/-- The issuer message is the gate's text of an id exactly when the claim spells the id. -/
theorem issuer_message_iff {value : JsString} (hex : isHex32 value = true)
    (issuerId : BytesN 32)
    : utf8ToBytes (ofOctets ClaimName.issuerId.text ++ js "=" ++ value)
        = KycGate.expectedIssuer issuerId
      ↔ hexToBytes value = some issuerId.val := by
  obtain ⟨octets, rfl⟩ := exists_bytes_of_isHex32 hex
  have plain : isAscii (KycGate.expectedIssuer issuerId) = true := by
    rw [KycGate.expectedIssuer, isAscii_append, KycGate.hex32, isAscii_hexText]
    rfl
  have spelled
      : ofOctets ClaimName.issuerId.text ++ js "=" ++ bytesToHex octets.val
        = ofOctets (KycGate.expectedIssuer octets) := by
    simp only [KycGate.expectedIssuer, KycGate.hex32, ofOctets_append, bytesToHex]
    rfl
  rw [utf8ToBytes_eq_iff plain, spelled, ofOctets_injective.eq_iff,
    KycGate.expectedIssuer_injective.eq_iff, hexToBytes_bytesToHex, Option.some.injEq,
    Subtype.ext_iff]

/-- The revocation message is the gate's text of a 32-bit index exactly when the claim is that
number; the text of a larger number matches none.
-/
theorem revocation_message_iff {value : Number} (natural : 0 ≤ value)
    (revocationIndex : UInt32)
    : utf8ToBytes (ofOctets ClaimName.revocationIndex.text ++ js "=" ++ numberText value)
        = KycGate.expectedRevIndex revocationIndex
      ↔ value = revocationIndex.toNat := by
  obtain ⟨index, rfl⟩ := Int.eq_ofNat_of_zero_le natural
  have plain : isAscii (KycGate.expectedRevIndex revocationIndex) = true := by
    rw [KycGate.expectedRevIndex, isAscii_append, KycGate.decimal_eq, isAscii_decimalText]
    rfl
  have spelled
      : ofOctets ClaimName.revocationIndex.text ++ js "=" ++ numberText index
        = ofOctets (ascii "revocationIndex=" ++ decimalText index) := by
    rw [numberText, if_neg (Int.not_lt.mpr natural), Int.natAbs_natCast, ofOctets_append]
    rfl
  rw [utf8ToBytes_eq_iff plain, spelled, ofOctets_injective.eq_iff, KycGate.expectedRevIndex,
    List.append_cancel_left_eq, KycGate.decimal_eq, decimalText_injective.eq_iff,
    Int.natCast_inj]

/-- A disclosed issuer message passes for exactly the signed id. -/
theorem Discloses.issuer_iff {claims : KycClaims} {messages : List JsString}
    {indexes : List Number} {disclosed : List JsString}
    (encoded : encodeClaims claims = .ok messages)
    (discloses : Discloses messages indexes disclosed)
    (shown : (claimIndex .issuerId : Number) ∈ indexes) (issuerId : BytesN 32)
    : KycGate.disclosedIs (indexes.map wireIndex) (disclosed.map utf8ToBytes) 1
          (KycGate.expectedIssuer issuerId)
        = true
      ↔ hexToBytes claims.issuerId = some issuerId.val := by
  obtain ⟨schema, each⟩ := encodeClaims_eq_ok encoded
  obtain ⟨text, written, held⟩ := each .issuerId
  obtain ⟨hex, rfl⟩ : isHex32 claims.issuerId = true ∧ text = claims.issuerId := by
    simp only [KycClaims.value, encodeValue, claimSpec, ClaimSpec.of] at written
    split at written
    case isTrue hex =>
      cases written
      exact ⟨hex, rfl⟩
    case isFalse => cases written
  exact (discloses.disclosedIs_iff schema 1 held _).trans
    ((and_iff_right shown).trans (issuer_message_iff hex issuerId))

/-- A disclosed revocation message passes for exactly the signed index. -/
theorem Discloses.revocation_iff {claims : KycClaims} {messages : List JsString}
    {indexes : List Number} {disclosed : List JsString}
    (encoded : encodeClaims claims = .ok messages)
    (discloses : Discloses messages indexes disclosed)
    (shown : (claimIndex .revocationIndex : Number) ∈ indexes) (revocationIndex : UInt32)
    : KycGate.disclosedIs (indexes.map wireIndex) (disclosed.map utf8ToBytes) 2
          (KycGate.expectedRevIndex revocationIndex)
        = true
      ↔ claims.revocationIndex = revocationIndex.toNat := by
  obtain ⟨schema, each⟩ := encodeClaims_eq_ok encoded
  obtain ⟨text, written, held⟩ := each .revocationIndex
  obtain ⟨natural, rfl⟩
      : 0 ≤ claims.revocationIndex ∧ text = numberText claims.revocationIndex := by
    simp only [KycClaims.value, encodeValue, claimSpec, ClaimSpec.of] at written
    split at written
    case isTrue => cases written
    case isFalse safe =>
      cases written
      exact ⟨Int.not_lt.mp (not_or.mp safe).2, rfl⟩
  exact (discloses.disclosedIs_iff schema 2 held _).trans
    ((and_iff_right shown).trans (revocation_message_iff natural revocationIndex))

-----------------------------------------------------------------------------------------
-- The bitmap
-----------------------------------------------------------------------------------------

/-- The booleans of a claim set that a disclosure shows. -/
def disclosedClaimSet (claims : KycClaims) (indexes : List Number) : ClaimSet :=
  {
    over18 := claims.over18 && decide ((claimIndex .over18 : Number) ∈ indexes)
    over21 := claims.over21 && decide ((claimIndex .over21 : Number) ∈ indexes)
    notSanctioned :=
      claims.notSanctioned && decide ((claimIndex .notSanctioned : Number) ∈ indexes)
    notPep := claims.notPep && decide ((claimIndex .notPep : Number) ∈ indexes)
    jurisdictionOk :=
      claims.jurisdictionOk && decide ((claimIndex .jurisdictionOk : Number) ∈ indexes)
    livenessOk := claims.livenessOk && decide ((claimIndex .livenessOk : Number) ∈ indexes)
  }

/-- The message of a boolean is the gate's `=true` text exactly for a true one. -/
theorem boolean_message_iff (name : ClaimName) (value : Bool)
    (plain : isAscii (name.text ++ ascii "=true") = true)
    : utf8ToBytes
          (ofOctets name.text ++ js "=" ++ (if value then js "true" else js "false"))
        = name.text ++ ascii "=true"
      ↔ value = true := by
  have spelled : ofOctets (name.text ++ ascii "=true") = ofOctets name.text ++ js "=true" :=
    ofOctets_append ..
  rw [utf8ToBytes_eq_iff plain, spelled, List.append_assoc, List.append_cancel_left_eq]
  cases value <;> decide

/-- The gate grants a boolean exactly when it is disclosed and true. -/
theorem Discloses.grants {claims : KycClaims} {messages : List JsString}
    {indexes : List Number} {disclosed : List JsString}
    (encoded : encodeClaims claims = .ok messages)
    (discloses : Discloses messages indexes disclosed) (name : ClaimName) {value : Bool}
    (kind : (claimSpec name).kind = .bool) (typed : claims.value name = .boolean value)
    (plain : isAscii (name.text ++ ascii "=true") = true)
    : KycGate.disclosedIs (indexes.map wireIndex) (disclosed.map utf8ToBytes)
        (UInt32.ofNat (claimIndex name)) (name.text ++ ascii "=true")
      = (value && decide ((claimIndex name : Number) ∈ indexes)) := by
  obtain ⟨schema, each⟩ := encodeClaims_eq_ok encoded
  obtain ⟨text, written, held⟩ := each name
  have text_eq : text = if value then js "true" else js "false" := by
    rw [typed, encodeValue] at written
    · exact (Except.ok.inj written).symm
    · exact kind
  rw [Bool.eq_iff_iff, discloses.disclosedIs_iff schema _ held, text_eq,
    boolean_message_iff name value plain, Bool.and_eq_true, decide_eq_true_eq, and_comm]

/-- The mask that the gate derives is the gateway's bitmap of the disclosed booleans. -/
theorem Discloses.derivedClaims_eq {claims : KycClaims} {messages : List JsString}
    {indexes : List Number} {disclosed : List JsString}
    (encoded : encodeClaims claims = .ok messages)
    (discloses : Discloses messages indexes disclosed)
    : (KycGate.derivedClaims (indexes.map wireIndex) (disclosed.map utf8ToBytes)).toNat
      = claimBitmap (disclosedClaimSet claims indexes) := by
  have over18 := discloses.grants encoded .over18 rfl rfl rfl
  have over21 := discloses.grants encoded .over21 rfl rfl rfl
  have notSanctioned := discloses.grants encoded .notSanctioned rfl rfl rfl
  have jurisdictionOk := discloses.grants encoded .jurisdictionOk rfl rfl rfl
  have bitmap (over18 over21 notSanctioned notPep jurisdictionOk livenessOk : Bool)
      : claimBitmap { over18, over21, notSanctioned, notPep, jurisdictionOk, livenessOk }
        = (if over18 then 1 else 0) ||| (if over21 then 2 else 0)
          ||| (if notSanctioned then 4 else 0) ||| (if jurisdictionOk then 8 else 0) := by
    revert over18 over21 notSanctioned notPep jurisdictionOk livenessOk
    decide
  rw [disclosedClaimSet, bitmap, ← over18, ← over21, ← notSanctioned, ← jurisdictionOk]
  unfold KycGate.derivedClaims
  change _ = (if KycGate.disclosedIs _ _ 6 (ascii "over18=true") then 1 else 0)
    ||| (if KycGate.disclosedIs _ _ 7 (ascii "over21=true") then 2 else 0)
    ||| (if KycGate.disclosedIs _ _ 8 (ascii "notSanctioned=true") then 4 else 0)
    ||| (if KycGate.disclosedIs _ _ 10 (ascii "jurisdictionOk=true") then 8 else 0)
  generalize KycGate.disclosedIs _ _ 6 _ = first
  generalize KycGate.disclosedIs _ _ 7 _ = second
  generalize KycGate.disclosedIs _ _ 8 _ = third
  generalize KycGate.disclosedIs _ _ 10 _ = fourth
  revert first second third fourth
  decide

/-- For every claim set that encodes and every disclosure of its messages that shows the
issuer id and the revocation index, the gate's comparisons pass for exactly the signed pair,
the gate, the client and the gateway derive one mask, and a requested mask passes exactly when
it is a subset.
-/
theorem claim_encoding_agrees {claims : KycClaims} {messages : List JsString}
    (encoded : encodeClaims claims = .ok messages) {indexes : List Number}
    {disclosed : List JsString} (discloses : Discloses messages indexes disclosed)
    (issuerShown : (claimIndex .issuerId : Number) ∈ indexes)
    (revocationShown : (claimIndex .revocationIndex : Number) ∈ indexes)
    (issuerId : BytesN 32) (revocationIndex requested : UInt32)
    : let wireIndexes := indexes.map wireIndex
      let wireMessages := disclosed.map utf8ToBytes
      let derived := KycGate.derivedClaims wireIndexes wireMessages
      ((KycGate.disclosedIs wireIndexes wireMessages 1 (KycGate.expectedIssuer issuerId)
            && KycGate.disclosedIs wireIndexes wireMessages 2
              (KycGate.expectedRevIndex revocationIndex))
          = true
        ↔ hexToBytes claims.issuerId = some issuerId.val
          ∧ claims.revocationIndex = revocationIndex.toNat)
      ∧ derived.toNat = deriveGrantedClaims indexes disclosed
      ∧ derived.toNat = claimBitmap (disclosedClaimSet claims indexes)
      ∧ (requested &&& ~~~ derived = 0
        ↔ ∀ position,
            requested.toNat.testBit position = true
            → derived.toNat.testBit position = true) := by
  intro wireIndexes wireMessages derived
  have fits := discloses.fits (encodeClaims_eq_ok encoded).1
  refine ⟨?_, (deriveGrantedClaims_eq fits).symm, discloses.derivedClaims_eq encoded,
    KycGate.and_not_eq_zero_iff requested derived⟩
  rw [Bool.and_eq_true]
  exact and_congr (discloses.issuer_iff encoded issuerShown issuerId)
    (discloses.revocation_iff encoded revocationShown revocationIndex)

namespace Sample

def issuerId : BytesN 32 := ⟨List.replicate 32 171, rfl⟩

/-- A credential whose revocation index is above 32 bits. -/
def claims : KycClaims :=
  {
    schemaVersion
    issuerId := bytesToHex issuerId.val
    revocationIndex := 5000000000
    issuedAt := 1700000000
    expiresAt := 1800000000
    subjectBinding := bytesToHex (List.replicate 32 1)
    over18 := true
    over21 := false
    notSanctioned := true
    notPep := true
    jurisdictionOk := true
    livenessOk := true
  }

def indexes : List Number := [1, 2, 6, 7]

def messages : List JsString := (encodeClaims claims).toOption.getD []

def disclosed : List JsString := indexes.map (fun index => messages.getD index.toNat [])

end Sample

/-- The index modulo `2 ^ 32` does not pass for the credential's, and one of the two disclosed
booleans is granted.
-/
theorem claim_encoding_agrees_above_u32
    : let wireIndexes := Sample.indexes.map wireIndex
      let wireMessages := Sample.disclosed.map utf8ToBytes
      let derived := KycGate.derivedClaims wireIndexes wireMessages
      ((KycGate.disclosedIs wireIndexes wireMessages 1 (KycGate.expectedIssuer Sample.issuerId)
            && KycGate.disclosedIs wireIndexes wireMessages 2
              (KycGate.expectedRevIndex 705032704))
          = true
        ↔ hexToBytes Sample.claims.issuerId = some Sample.issuerId.val
          ∧ Sample.claims.revocationIndex = (705032704 : UInt32).toNat)
      ∧ Sample.claims.revocationIndex ≠ (705032704 : UInt32).toNat
      ∧ derived.toNat = deriveGrantedClaims Sample.indexes Sample.disclosed
      ∧ derived.toNat = 1 := by
  have encoded : encodeClaims Sample.claims = .ok Sample.messages := rfl
  have discloses : Discloses Sample.messages Sample.indexes Sample.disclosed :=
    ⟨by decide, rfl⟩
  obtain ⟨checks, client, gateway, -⟩ :=
    claim_encoding_agrees encoded discloses (by decide) (by decide) Sample.issuerId 705032704 1
  exact ⟨checks, by decide, client, gateway.trans (by decide)⟩

end StellarOnramp.Sdk
