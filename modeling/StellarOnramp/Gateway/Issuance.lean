import StellarOnramp.Gateway.Claims
import StellarOnramp.Identity.Credential

/-! Issuing one credential: what is checked before a revocation index is drawn, and what is
signed and recorded once it is there.
-/

namespace StellarOnramp.Gateway

open Attempts JsText Octets
open StellarOnramp.Identity

/-- Why nothing was issued. The texts are left out: the transport answers with its own. -/
inductive IssuanceFailure where
  /-- A refusal of the issuing code itself. -/
  | issuance
  | revocationIndex
  | record
  /-- A refusal of the identity package. -/
  | identity (failure : Failure)

abbrev Issuing := Except IssuanceFailure

/-- A call into the identity package. -/
def ofIdentity {α : Type} (attempt : Attempt α) : Issuing α := attempt.mapError .identity

theorem ofIdentity_eq_ok {α : Type} {attempt : Attempt α} {value : α}
    : ofIdentity attempt = .ok value ↔ attempt = .ok value := by
  cases attempt <;> simp [ofIdentity, Except.mapError]

/-- The attestation payload writes an index as a `u32`. -/
def maxRevocationIndex : Nat := 0xffffffff

/-- The index that an allocator handed out; `none` is a number that is not whole. -/
def assertUsableRevocationIndex : Option Number → Issuing Number
  | none => .error .revocationIndex
  | some value => do
      failIf (value < 0 ∨ (maxRevocationIndex : Number) < value) .revocationIndex
      .ok value

-----------------------------------------------------------------------------------------
-- The record
-----------------------------------------------------------------------------------------

/-- Everything the gateway keeps about one issuance. -/
structure IssuanceRecord where
  provider : JsString
  providerRefId : JsString
  subjectId : JsString
  walletCAddr : JsString
  claimBitmap : Number
  schemaVersion : JsString
  issuedAt : Number
  expiresAt : Number
  revocationIndex : Number
  issuerId : JsString

def nonEmpty (value : JsString) : Issuing JsString := do
  failIf (value = []) .record
  .ok value

def u32 (value : Number) : Issuing Number := do
  failIf (value < 0 ∨ 0xffffffff < value) .record
  .ok value

def hex32 (value : JsString) : Issuing JsString := do
  failIf (isHex32 value = false) .record
  .ok value

def buildIssuanceRecord (args : IssuanceRecord) : Issuing IssuanceRecord := do
  let provider ← nonEmpty args.provider
  let providerRefId ← nonEmpty args.providerRefId
  let subjectId ← nonEmpty args.subjectId
  let walletCAddr ← nonEmpty args.walletCAddr
  let claimBitmap ← u32 args.claimBitmap
  let schemaVersion ← nonEmpty args.schemaVersion
  let issuedAt ← u32 args.issuedAt
  let expiresAt ← u32 args.expiresAt
  let revocationIndex ← u32 args.revocationIndex
  let issuerId ← hex32 args.issuerId
  failIf (expiresAt ≤ issuedAt) .record
  .ok
    {
      provider, providerRefId, subjectId, walletCAddr, claimBitmap, schemaVersion, issuedAt,
      expiresAt, revocationIndex, issuerId
    }

/-- A record is built from its arguments as they are. Witness: invert the checks. -/
theorem buildIssuanceRecord_eq_ok {args record : IssuanceRecord}
    (built : buildIssuanceRecord args = .ok record)
    : record = args := by
  have text {value result : JsString} (kept : nonEmpty value = .ok result) : result = value :=
    (Except.ok.inj (failIf_bind_eq_ok.mp kept).2).symm
  have word {value result : Number} (kept : u32 value = .ok result) : result = value :=
    (Except.ok.inj (failIf_bind_eq_ok.mp kept).2).symm
  have hex {value result : JsString} (kept : hex32 value = .ok result) : result = value :=
    (Except.ok.inj (failIf_bind_eq_ok.mp kept).2).symm
  obtain ⟨_, provider, built⟩ := bind_eq_ok.mp built
  obtain ⟨_, providerRefId, built⟩ := bind_eq_ok.mp built
  obtain ⟨_, subjectId, built⟩ := bind_eq_ok.mp built
  obtain ⟨_, walletCAddr, built⟩ := bind_eq_ok.mp built
  obtain ⟨_, claimBitmap, built⟩ := bind_eq_ok.mp built
  obtain ⟨_, schemaVersion, built⟩ := bind_eq_ok.mp built
  obtain ⟨_, issuedAt, built⟩ := bind_eq_ok.mp built
  obtain ⟨_, expiresAt, built⟩ := bind_eq_ok.mp built
  obtain ⟨_, revocationIndex, built⟩ := bind_eq_ok.mp built
  obtain ⟨_, issuerId, built⟩ := bind_eq_ok.mp built
  obtain ⟨-, built⟩ := failIf_bind_eq_ok.mp built
  cases built
  rw [text provider, text providerRefId, text subjectId, text walletCAddr, word claimBitmap,
    text schemaVersion, word issuedAt, word expiresAt, word revocationIndex, hex issuerId]

-----------------------------------------------------------------------------------------
-- Issuing
-----------------------------------------------------------------------------------------

structure IssueCredentialRequest where
  claims : ClaimSet
  /-- Wallet address the credential is bound to. -/
  walletAddress : JsString
  issuedAt : Number
  expiresAt : Number
  issuerSecretKey : Bytes
  issuerPublicKey : Bytes
  provider : JsString
  providerRefId : JsString
  subjectId : JsString

/-- What is known when the allocator is asked. -/
structure PreparedIssuance where
  request : IssueCredentialRequest
  bitmap : Nat
  salt : Bytes
  subjectBinding : JsString
  issuerId : JsString

structure IssuedCredential where
  credential : Credential
  serialized : SerializedCredential
  subjectBindingSalt : Bytes
  record : IssuanceRecord
  claimBitmap : Nat

/-- The first half of `issueKycCredential`, up to the allocator; `salt` is what the
generator drew.
-/
def prepareIssuance (sha256 : Bytes → Bytes) (request : IssueCredentialRequest) (salt : Bytes)
    : Issuing PreparedIssuance := do
  failIf (request.issuedAt < 0) .issuance
  failIf (request.expiresAt ≤ request.issuedAt) .issuance
  failIf (request.issuerSecretKey.length ≠ 32) .issuance
  let bitmap := claimBitmap request.claims
  failIf (bitmap = 0) .issuance
  failIf (salt.length ≠ subjectBindingSaltBytes) .issuance
  let subjectBinding ← ofIdentity (computeSubjectBinding sha256 request.walletAddress salt)
  let issuerId := issuerIdFromPublicKey sha256 request.issuerPublicKey
  .ok { request, bitmap, salt, subjectBinding, issuerId }

def PreparedIssuance.claims (prepared : PreparedIssuance) (revocationIndex : Number)
    : KycClaims :=
  {
    schemaVersion
    issuerId := prepared.issuerId
    revocationIndex
    issuedAt := prepared.request.issuedAt
    expiresAt := prepared.request.expiresAt
    subjectBinding := prepared.subjectBinding
    over18 := prepared.request.claims.over18
    over21 := prepared.request.claims.over21
    notSanctioned := prepared.request.claims.notSanctioned
    notPep := prepared.request.claims.notPep
    jurisdictionOk := prepared.request.claims.jurisdictionOk
    livenessOk := prepared.request.claims.livenessOk
  }

def PreparedIssuance.record (prepared : PreparedIssuance) (revocationIndex : Number)
    : IssuanceRecord :=
  {
    provider := prepared.request.provider
    providerRefId := prepared.request.providerRefId
    subjectId := prepared.request.subjectId
    walletCAddr := prepared.request.walletAddress
    claimBitmap := prepared.bitmap
    schemaVersion
    issuedAt := prepared.request.issuedAt
    expiresAt := prepared.request.expiresAt
    revocationIndex
    issuerId := prepared.issuerId
  }

/-- The second half of `issueKycCredential`, once the allocator has answered. -/
def completeIssuance (bbs : BbsLibrary) (sha256 : Bytes → Bytes) (prepared : PreparedIssuance)
    (allocated : Option Number)
    : Issuing IssuedCredential := do
  let revocationIndex ← assertUsableRevocationIndex allocated
  let credential ←
    ofIdentity
      (issue bbs sha256 (prepared.claims revocationIndex) prepared.request.issuerSecretKey)
  let record ← buildIssuanceRecord (prepared.record revocationIndex)
  .ok
    {
      credential
      serialized := serializeCredential credential
      subjectBindingSalt := prepared.salt
      record
      claimBitmap := prepared.bitmap
    }

-----------------------------------------------------------------------------------------
-- What was issued
-----------------------------------------------------------------------------------------

/-- An issuance that was prepared for a request. -/
structure Prepared (sha256 : Bytes → Bytes) (request : IssueCredentialRequest)
    (prepared : PreparedIssuance)
    : Prop where
  asked : prepared.request = request
  bound
    : computeSubjectBinding sha256 request.walletAddress prepared.salt
      = .ok prepared.subjectBinding

theorem prepareIssuance_eq_ok {sha256 : Bytes → Bytes} {request : IssueCredentialRequest}
    {salt : Bytes} {prepared : PreparedIssuance}
    (ready : prepareIssuance sha256 request salt = .ok prepared)
    : Prepared sha256 request prepared := by
  obtain ⟨-, ready⟩ := failIf_bind_eq_ok.mp ready
  obtain ⟨-, ready⟩ := failIf_bind_eq_ok.mp ready
  obtain ⟨-, ready⟩ := failIf_bind_eq_ok.mp ready
  obtain ⟨-, ready⟩ := failIf_bind_eq_ok.mp ready
  obtain ⟨-, ready⟩ := failIf_bind_eq_ok.mp ready
  obtain ⟨subjectBinding, bound, ready⟩ := bind_eq_ok.mp ready
  cases ready
  exact { asked := rfl, bound := ofIdentity_eq_ok.mp bound }

/-- A credential that was issued from a prepared issuance. -/
structure Completed (bbs : BbsLibrary) (sha256 : Bytes → Bytes) (prepared : PreparedIssuance)
    (index : Number) (issued : IssuedCredential)
    : Prop where
  usable : 0 ≤ index ∧ index ≤ maxRevocationIndex
  claims : issued.credential.claims = prepared.claims index
  signed : Issued bbs sha256 prepared.request.issuerSecretKey issued.credential
  serialized : issued.serialized = serializeCredential issued.credential
  salt : issued.subjectBindingSalt = prepared.salt
  record : issued.record = prepared.record index

theorem completeIssuance_eq_ok {bbs : BbsLibrary} {sha256 : Bytes → Bytes}
    {prepared : PreparedIssuance} {allocated : Option Number} {issued : IssuedCredential}
    (completed : completeIssuance bbs sha256 prepared allocated = .ok issued)
    : ∃ index, allocated = some index ∧ Completed bbs sha256 prepared index issued := by
  obtain ⟨index, usable, completed⟩ := bind_eq_ok.mp completed
  obtain ⟨credential, signed, completed⟩ := bind_eq_ok.mp completed
  obtain ⟨record, recorded, completed⟩ := bind_eq_ok.mp completed
  cases completed
  cases allocated with
  | none => cases usable
  | some value =>
      obtain ⟨inside, same⟩ := failIf_bind_eq_ok.mp usable
      obtain rfl := Except.ok.inj same
      obtain ⟨claims, signed⟩ := issue_eq_ok (ofIdentity_eq_ok.mp signed)
      refine ⟨value, rfl, ?_⟩
      exact {
        usable := ⟨not_lt.mp (not_or.mp inside).1, not_lt.mp (not_or.mp inside).2⟩
        claims
        signed
        serialized := rfl
        salt := rfl
        record := buildIssuanceRecord_eq_ok recorded
      }

/-- The booleans of a credential are those of the request. -/
theorem Completed.boolean {bbs : BbsLibrary} {sha256 : Bytes → Bytes}
    {prepared : PreparedIssuance} {index : Number} {issued : IssuedCredential}
    (completed : Completed bbs sha256 prepared index issued) {name : ClaimName}
    (boolean : name ∈ booleanClaimNames)
    : issued.credential.claims.value name = .boolean (prepared.request.claims.value name) := by
  rw [completed.claims]
  simp only [booleanClaimNames, List.mem_cons, List.not_mem_nil, or_false] at boolean
  rcases boolean with rfl | rfl | rfl | rfl | rfl | rfl <;> rfl

/-- The credential is bound to the wallet that was asked for, under the salt that is
returned.
-/
theorem Completed.bound {bbs : BbsLibrary} {sha256 : Bytes → Bytes}
    {request : IssueCredentialRequest} {prepared : PreparedIssuance} {index : Number}
    {issued : IssuedCredential} (completed : Completed bbs sha256 prepared index issued)
    (ready : Prepared sha256 request prepared)
    : computeSubjectBinding sha256 request.walletAddress issued.subjectBindingSalt
      = .ok issued.credential.claims.subjectBinding := by
  rw [completed.salt, completed.claims]
  exact ready.bound

end StellarOnramp.Gateway
