import StellarOnramp.KycGate.CallArguments
import StellarOnramp.Sdk.Grants

/-! The twelve positional arguments of `attest_bbs`, as the client builds them and as the gate
reads them.
-/

namespace StellarOnramp.Sdk

open Attempts JsText Octets
open StellarOnramp.Identity
open StellarOnramp.Soroban

def attestFailure (message : JsString) : Failure :=
  { kind := .attest, message }

-----------------------------------------------------------------------------------------
-- Host values
-----------------------------------------------------------------------------------------

/-- The Stellar library's reader of address text; `none` where it throws. -/
abbrev AddressReader := JsString → Option Address

def addrScVal (addresses : AddressReader) (text : JsString) : Attempt ScVal := do
  let address ← throwing (addresses text)
  .ok (.address address)

/-- The library refuses to write a number that does not fit. -/
def u32 (value : Number) : Attempt ScVal := do
  failIf (value < 0 ∨ value > 0xffffffff) libraryFailure
  .ok (.u32 (UInt32.ofNat value.toNat))

def bytesScVal (octets : Bytes) : ScVal := .bytes octets

-----------------------------------------------------------------------------------------
-- The proof map
-----------------------------------------------------------------------------------------

def isSymbolUnit (unit : UInt16) : Bool :=
  (65 ≤ unit && unit ≤ 90) || (97 ≤ unit && unit ≤ 122) || isDigit unit || unit == 95

/-- `/^[A-Za-z0-9_]{1,32}$/` -/
def isSymbol (text : JsString) : Bool :=
  1 ≤ text.length && text.length ≤ 32 && text.all isSymbolUnit

def symbolFailure (text : JsString) : Failure :=
  {
    kind := .library
    message :=
      js "\"" ++ text ++ js "\" is not a legal Soroban symbol ([A-Za-z0-9_], 1-32 bytes)"
  }

/-- Ascending order of the octets. -/
def compareSorobanSymbol (a b : JsString) : Attempt Ordering := do
  failIf (isSymbol a = false) (symbolFailure a)
  failIf (isSymbol b = false) (symbolFailure b)
  .ok (compare (utf8ToBytes a) (utf8ToBytes b))

/-- Insert a field behind those that do not come after it. -/
def insertField (field : JsString × ScVal) : List (JsString × ScVal)
    → Attempt (List (JsString × ScVal))
  | [] => .ok [field]
  | first :: rest => do
      let order ← compareSorobanSymbol field.1 first.1
      if order = .lt then
        .ok (field :: first :: rest)
      else do
        let rest ← insertField field rest
        .ok (first :: rest)

def sortFields (fields : List (JsString × ScVal)) : Attempt (List (JsString × ScVal)) :=
  fields.foldlM (fun sorted field => insertField field sorted) []

/-- The map has symbols for keys, sorted. -/
def bbsProofScVal (p : SorobanProof) : Attempt ScVal := do
  let fields ←
    sortFields
      [
        (js "a_bar", bytesScVal p.abar),
        (js "b_bar", bytesScVal p.bbar),
        (js "d", bytesScVal p.d),
        (js "e_hat", bytesScVal p.eHat),
        (js "r1_hat", bytesScVal p.r1Hat),
        (js "r3_hat", bytesScVal p.r3Hat),
        (js "m_hat", .vec (p.mHat.map bytesScVal)),
        (js "challenge", bytesScVal p.challenge)
      ]
  .ok (.map (fields.map (fun field => (.symbol (utf8ToBytes field.1), field.2))))

-----------------------------------------------------------------------------------------
-- The twelve arguments
-----------------------------------------------------------------------------------------

structure AttestBbsArgsInput where
  subject : JsString
  /-- 32 octets as lower-case hexadecimal text. -/
  issuerId : JsString
  claimsBitmap : Number
  expiresAt : Number
  revocationEpoch : Number
  revocationIndex : Number
  proof : Proof
  nonceHex : JsString
  ledgerExpiry : Number

/-- The arguments in wire order. The header is the one that the credential was signed over. -/
def attestBbsArgs (addresses : AddressReader) (curves : CurveLibrary)
    (input : AttestBbsArgsInput)
    : Attempt (List ScVal) := do
  failIf (isHex32 input.issuerId = false)
    (attestFailure
      (js "issuerId must be 32 lowercase hex bytes, got \"" ++ input.issuerId ++ js "\""))
  failIf (isHex32 input.nonceHex = false)
    (attestFailure
      (js "nonceHex must be 32 lowercase hex bytes, got \"" ++ input.nonceHex ++ js "\""))
  failIf (input.claimsBitmap < 0 ∨ input.claimsBitmap > 0xffffffff)
    (attestFailure
      (js "claimsBitmap " ++ numberText input.claimsBitmap ++ js " is not a u32"))
  failIf (input.revocationIndex < 0 ∨ input.revocationIndex > 0xffffffff)
    (attestFailure
      (js "revocationIndex " ++ numberText input.revocationIndex ++ js " is not a u32"))
  failIf (input.expiresAt ≤ 0 ∨ input.expiresAt > 0xffffffff)
    (attestFailure
      (js "expiresAt " ++ numberText input.expiresAt
        ++ js " is not a positive u32 ledger sequence"))
  failIf (input.ledgerExpiry ≤ 0 ∨ input.ledgerExpiry > 0xffffffff)
    (attestFailure
      (js "ledgerExpiry " ++ numberText input.ledgerExpiry
        ++ js " is not a positive u32 ledger"))
  let subject ← addrScVal addresses input.subject
  let issuerId ← throwing (hexToBytes input.issuerId)
  let claims ← u32 input.claimsBitmap
  let expiresAt ← u32 input.expiresAt
  let revocationEpoch ← u32 input.revocationEpoch
  let revocationIndex ← u32 input.revocationIndex
  let split ← splitProof curves input.proof.proof
  let proof ← bbsProofScVal split
  let disclosedIndexes ← input.proof.disclosedIndexes.mapM u32
  let nonce ← throwing (hexToBytes input.nonceHex)
  let ledgerExpiry ← u32 input.ledgerExpiry
  .ok
    [
      subject,
      bytesScVal issuerId,
      claims,
      expiresAt,
      revocationEpoch,
      revocationIndex,
      proof,
      .vec disclosedIndexes,
      .vec (input.proof.disclosedMessages.map (fun message => bytesScVal (utf8ToBytes message))),
      bytesScVal (utf8ToBytes credentialHeader),
      bytesScVal nonce,
      ledgerExpiry
    ]

-----------------------------------------------------------------------------------------
-- The gate's reading
-----------------------------------------------------------------------------------------

/-- The arguments that a gate has when it read what the client wrote. -/
structure Reads (addresses : AddressReader) (curves : CurveLibrary)
    (input : AttestBbsArgsInput) (args : KycGate.AttestArgs)
    : Prop where
  subject : addresses input.subject = some args.subject
  issuerId : input.issuerId = bytesToHex args.issuerId.val
  claims : input.claimsBitmap = args.claims.toNat
  expiresAt : input.expiresAt = args.expiresAt.toNat
  revocationEpoch : input.revocationEpoch = args.revocationEpoch.toNat
  revocationIndex : input.revocationIndex = args.revocationIndex.toNat
  proof : splitProof curves input.proof.proof = .ok (SorobanProof.ofProof args.proof)
  disclosedIndexes : args.disclosedIndexes = input.proof.disclosedIndexes.map wireIndex
  disclosedMessages : args.disclosedMessages = input.proof.disclosedMessages.map utf8ToBytes
  header : args.header = utf8ToBytes credentialHeader
  nonce : input.nonceHex = bytesToHex args.nonce.val
  ledgerExpiry : input.ledgerExpiry = args.ledgerExpiry.toNat

theorem u32_eq_ok {value : Number} {written : ScVal} (fits : u32 value = .ok written)
    : written = .u32 (wireIndex value) ∧ value = (wireIndex value).toNat := by
  rcases failIf_bind_eq_ok.mp fits with ⟨range, fits⟩
  cases fits
  refine ⟨rfl, ?_⟩
  have bounds (value : Int) (range : ¬ (value < 0 ∨ value > 0xffffffff))
      : 0 ≤ value ∧ value < 2 ^ 32 := by
    omega
  exact (wireIndex_eq_iff (bounds value range)).mp rfl

/-- Written numbers are read back, by list induction. -/
theorem toVec_mapM_u32 {values : List Number} {written : List ScVal}
    (fit : values.mapM u32 = .ok written)
    : (ScVal.vec written).toVec ScVal.toU32 = some (values.map wireIndex) := by
  rw [ScVal.toVec]
  induction values generalizing written with
  | nil =>
      cases fit
      rfl
  | cons value rest ih =>
      rw [List.mapM_cons] at fit
      rcases bind_eq_ok.mp fit with ⟨first, here, fit⟩
      rcases bind_eq_ok.mp fit with ⟨later, there, fit⟩
      cases fit
      rw [List.mapM_cons, (u32_eq_ok here).1, ih there]
      rfl

/-- Sorting puts the eight fields where the host wants them. -/
theorem bbsProofScVal_ofProof (proof : KycGate.BbsProof)
    : bbsProofScVal (SorobanProof.ofProof proof) = .ok proof.toScVal := by
  have responses
      : (proof.mHat.map Subtype.val).map bytesScVal
        = proof.mHat.map (fun response => .bytes response.val) :=
    List.map_map
  rw [KycGate.BbsProof.toScVal, ← responses]
  rfl

/-- Whatever the client builds, the gate reads at the declared types, each argument in its own
position.
-/
theorem attestBbsArgs_eq_ok {addresses : AddressReader} {curves : CurveLibrary}
    {input : AttestBbsArgsInput} {values : List ScVal}
    (built : attestBbsArgs addresses curves input = .ok values)
    : ∃ args,
        KycGate.AttestArgs.fromScVals values = some args
        ∧ Reads addresses curves input args := by
  rcases failIf_bind_eq_ok.mp built with ⟨issuerHex, built⟩
  rcases failIf_bind_eq_ok.mp built with ⟨nonceHex, built⟩
  rcases failIf_bind_eq_ok.mp built with ⟨-, built⟩
  rcases failIf_bind_eq_ok.mp built with ⟨-, built⟩
  rcases failIf_bind_eq_ok.mp built with ⟨-, built⟩
  rcases failIf_bind_eq_ok.mp built with ⟨-, built⟩
  rcases bind_eq_ok.mp built with ⟨subjectValue, addressed, built⟩
  rcases bind_eq_ok.mp built with ⟨issuerOctets, issuerRead, built⟩
  rcases bind_eq_ok.mp built with ⟨claims, claimsFit, built⟩
  rcases bind_eq_ok.mp built with ⟨expiresAt, expiresAtFits, built⟩
  rcases bind_eq_ok.mp built with ⟨revocationEpoch, epochFits, built⟩
  rcases bind_eq_ok.mp built with ⟨revocationIndex, indexFits, built⟩
  rcases bind_eq_ok.mp built with ⟨split, splits, built⟩
  rcases bind_eq_ok.mp built with ⟨proofValue, mapped, built⟩
  rcases bind_eq_ok.mp built with ⟨disclosedIndexes, indexesFit, built⟩
  rcases bind_eq_ok.mp built with ⟨nonceOctets, nonceRead, built⟩
  rcases bind_eq_ok.mp built with ⟨ledgerExpiry, ledgerExpiryFits, built⟩
  cases built
  obtain ⟨subject, addressRead, written⟩ := bind_ok_eq_ok.mp addressed
  obtain ⟨proof, rfl⟩ := exists_ofProof splits
  obtain ⟨issuerId, issuerSpelled⟩ := exists_bytes_of_isHex32 (Bool.not_eq_false _ ▸ issuerHex)
  obtain ⟨nonce, nonceSpelled⟩ := exists_bytes_of_isHex32 (Bool.not_eq_false _ ▸ nonceHex)
  have issuerKept : issuerOctets = issuerId.val := by
    rw [throwing_eq_ok, ← issuerSpelled, hexToBytes_bytesToHex] at issuerRead
    exact (Option.some.inj issuerRead).symm
  have nonceKept : nonceOctets = nonce.val := by
    rw [throwing_eq_ok, ← nonceSpelled, hexToBytes_bytesToHex] at nonceRead
    exact (Option.some.inj nonceRead).symm
  have octets (message : JsString)
      : (bytesScVal (utf8ToBytes message)).toBytes = some (utf8ToBytes message) :=
    rfl
  have messages := ScVal.toVec_map octets input.proof.disclosedMessages
  rw [bbsProofScVal_ofProof] at mapped
  cases mapped
  obtain ⟨rfl, claimsKept⟩ := u32_eq_ok claimsFit
  obtain ⟨rfl, expiresAtKept⟩ := u32_eq_ok expiresAtFits
  obtain ⟨rfl, epochKept⟩ := u32_eq_ok epochFits
  obtain ⟨rfl, indexKept⟩ := u32_eq_ok indexFits
  obtain ⟨rfl, ledgerExpiryKept⟩ := u32_eq_ok ledgerExpiryFits
  subst written issuerKept nonceKept
  let args : KycGate.AttestArgs := {
    subject
    issuerId
    claims := wireIndex input.claimsBitmap
    expiresAt := wireIndex input.expiresAt
    revocationEpoch := wireIndex input.revocationEpoch
    revocationIndex := wireIndex input.revocationIndex
    proof
    disclosedIndexes := input.proof.disclosedIndexes.map wireIndex
    disclosedMessages := input.proof.disclosedMessages.map utf8ToBytes
    header := utf8ToBytes credentialHeader
    nonce
    ledgerExpiry := wireIndex input.ledgerExpiry
  }
  refine ⟨args, ?_, {
    subject := throwing_eq_ok.mp addressRead
    issuerId := issuerSpelled.symm
    claims := claimsKept
    expiresAt := expiresAtKept
    revocationEpoch := epochKept
    revocationIndex := indexKept
    proof := splits
    disclosedIndexes := rfl
    disclosedMessages := rfl
    header := rfl
    nonce := nonceSpelled.symm
    ledgerExpiry := ledgerExpiryKept
  }⟩
  have issuerSized : (bytesScVal issuerId.val).toBytesN 32 = some issuerId :=
    ScVal.toBytesN_val issuerId
  have nonceSized : (bytesScVal nonce.val).toBytesN 32 = some nonce :=
    ScVal.toBytesN_val nonce
  have header : (bytesScVal (utf8ToBytes credentialHeader)).toBytes = some args.header := rfl
  simp only [KycGate.AttestArgs.fromScVals, ScVal.toAddress, ScVal.toU32, issuerSized,
    KycGate.BbsProof.fromScVal_toScVal, toVec_mapM_u32 indexesFit, messages, header, nonceSized,
    Option.bind_eq_bind, Option.bind_some]
  rfl

end StellarOnramp.Sdk
