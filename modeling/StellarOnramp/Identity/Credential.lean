import StellarOnramp.Identity.Binding
import StellarOnramp.Identity.Points

/-! Issuing a credential, and deriving a presentation that discloses some of its messages.
The BBS library is a parameter.
-/

namespace StellarOnramp.Identity

open Attempts JsText Octets

/-- The BBS library under the fixed ciphersuite; `none` where it throws. The randomness of a
run is part of the function.
-/
structure BbsLibrary where
  secretKeyToPublicKey : Bytes → Option Bytes
  sign : (secretKey publicKey header : Bytes) → (messages : List Bytes) → Option Bytes
  deriveProof
    : (publicKey signature header : Bytes)
      → (messages : List Bytes)
      → (presentationHeader : Bytes)
      → (disclosedMessageIndexes : List Number)
      → Option Bytes

/-- A signed credential, held by the holder. -/
structure Credential where
  schemaVersion : JsString
  /-- Canonical messages; index `i` is the claim at schema index `i`. -/
  messages : List JsString
  signature : Bytes
  /-- Compressed, 96 octets. -/
  issuerPublicKey : Bytes
  claims : KycClaims
  deriving DecidableEq

/-- A derived selective-disclosure presentation. -/
structure Proof where
  schemaVersion : JsString
  proof : Bytes
  /-- Ascending and unique. -/
  disclosedIndexes : List Number
  /-- Parallel to `disclosedIndexes`. -/
  disclosedMessages : List JsString
  totalMessages : Nat
  binding : ProofBinding
  deriving DecidableEq

def subjectBindingSaltBytes : Nat := 32

/-- The commitment of a credential to a wallet: a salted digest of its address. -/
def computeSubjectBinding (sha256 : Bytes → Bytes) (walletAddress : JsString) (salt : Bytes)
    : Attempt JsString := do
  failIf (isStrkeyAny walletAddress = false)
    { kind := .schema, message := js "subject binding requires a Stellar C- or G-address" }
  failIf (salt.length ≠ subjectBindingSaltBytes)
    {
      kind := .schema
      message :=
        js "subject binding salt must be " ++ numberText subjectBindingSaltBytes ++ js " bytes"
    }
  .ok (bytesToHex (sha256 (utf8ToBytes walletAddress ++ salt)))

def credentialFailure (message : JsString) : Failure :=
  { kind := .credential, message }

def issuerPublicKey (bbs : BbsLibrary) (secretKey : Bytes) : Attempt Bytes :=
  throwing (bbs.secretKeyToPublicKey secretKey)

/-- The issuer id is the digest of the compressed key. -/
def issuerIdFromPublicKey (sha256 : Bytes → Bytes) (publicKey : Bytes) : JsString :=
  bytesToHex (sha256 publicKey)

/-- Sign all twelve canonical messages. -/
def issue (bbs : BbsLibrary) (sha256 : Bytes → Bytes) (claims : KycClaims)
    (issuerSecretKey : Bytes)
    : Attempt Credential := do
  failIf (issuerSecretKey.length ≠ 32)
    (credentialFailure (js "issuerSecretKey must be a 32-byte Uint8Array"))
  failIf (claims.schemaVersion ≠ schemaVersion)
    (credentialFailure
      (js "claims.schemaVersion must be \"" ++ schemaVersion ++ js "\", got \""
        ++ claims.schemaVersion ++ js "\""))
  failIf (claims.expiresAt ≤ claims.issuedAt)
    (credentialFailure (js "claims.expiresAt must be strictly after claims.issuedAt"))
  let messages ← encodeClaims claims
  failIf (messages.length ≠ schemaAttributeCount)
    (credentialFailure (js "internal: encoded message count mismatch"))
  let publicKey ← issuerPublicKey bbs issuerSecretKey
  failIf (claims.issuerId ≠ issuerIdFromPublicKey sha256 publicKey)
    (credentialFailure (js "claims.issuerId does not match the signing key"))
  let signature ←
    throwing
      (bbs.sign issuerSecretKey publicKey (utf8ToBytes credentialHeader)
        (messages.map utf8ToBytes))
  failIf (signature.length ≠ signatureBytes)
    (credentialFailure
      (js "internal: expected " ++ numberText signatureBytes ++ js "-byte signature"))
  .ok { schemaVersion, messages, signature, issuerPublicKey := publicKey, claims }

/-- A credential as it travels, with its octets in hex. -/
structure SerializedCredential where
  schemaVersion : JsString
  messages : List JsString
  signature : JsString
  issuerPublicKey : JsString
  claims : KycClaims

def serializeCredential (c : Credential) : SerializedCredential :=
  {
    schemaVersion := c.schemaVersion
    messages := c.messages
    signature := bytesToHex c.signature
    issuerPublicKey := bytesToHex c.issuerPublicKey
    claims := c.claims
  }

/-- The message at an index; an absent one is an error. -/
def Credential.messageAt (credential : Credential) (index : Number) : Attempt JsString :=
  match if index < 0 then none else credential.messages[index.toNat]? with
  | some message => .ok message
  | none =>
      .error
        (credentialFailure (js "credential has no message at index " ++ numberText index))

/-- Derive a presentation. The presentation header comes from the binding alone. -/
def derive (bbs : BbsLibrary) (sha256 : Bytes → Bytes) (credential : Credential)
    (revealedIndices : List Number) (binding : ProofBinding)
    : Attempt Proof := do
  failIf (credential.schemaVersion ≠ schemaVersion)
    (credentialFailure (js "unsupported credential schema v" ++ credential.schemaVersion))
  assertValidBinding binding
  let disclosedIndexes ← normalizeIndexes revealedIndices
  let presentationHeader ← presentationHeaderFor sha256 binding
  let proof ←
    throwing
      (bbs.deriveProof credential.issuerPublicKey credential.signature
        (utf8ToBytes credentialHeader) (credential.messages.map utf8ToBytes)
        presentationHeader disclosedIndexes)
  let expected ←
    expectedProofBytes ((credential.messages.length : Number) - disclosedIndexes.length)
  failIf (proof.length ≠ expected)
    (credentialFailure
      (js "internal: proof is " ++ numberText proof.length
        ++ js " bytes, size law predicts " ++ numberText expected))
  let disclosedMessages ← disclosedIndexes.mapM credential.messageAt
  .ok
    {
      schemaVersion := credential.schemaVersion
      proof
      disclosedIndexes
      disclosedMessages
      totalMessages := credential.messages.length
      binding
    }

-----------------------------------------------------------------------------------------
-- What success means
-----------------------------------------------------------------------------------------

/-- A credential that an issuer key signed. -/
structure Issued (bbs : BbsLibrary) (sha256 : Bytes → Bytes) (secretKey : Bytes)
    (credential : Credential)
    : Prop where
  encoded : encodeClaims credential.claims = .ok credential.messages
  keyed : bbs.secretKeyToPublicKey secretKey = some credential.issuerPublicKey
  named
    : credential.claims.issuerId = issuerIdFromPublicKey sha256 credential.issuerPublicKey
  signed
    : bbs.sign secretKey credential.issuerPublicKey (utf8ToBytes credentialHeader)
        (credential.messages.map utf8ToBytes)
      = some credential.signature

/-- An issued credential carries the claims, their messages and the signature over them.
Witness: invert the checks in source order.
-/
theorem issue_eq_ok {bbs : BbsLibrary} {sha256 : Bytes → Bytes} {claims : KycClaims}
    {secretKey : Bytes} {credential : Credential}
    (issued : issue bbs sha256 claims secretKey = .ok credential)
    : credential.claims = claims ∧ Issued bbs sha256 secretKey credential := by
  rcases failIf_bind_eq_ok.mp issued with ⟨-, issued⟩
  rcases failIf_bind_eq_ok.mp issued with ⟨-, issued⟩
  rcases failIf_bind_eq_ok.mp issued with ⟨-, issued⟩
  rcases bind_eq_ok.mp issued with ⟨messages, encoded, issued⟩
  rcases failIf_bind_eq_ok.mp issued with ⟨-, issued⟩
  rcases bind_eq_ok.mp issued with ⟨publicKey, keyed, issued⟩
  rcases failIf_bind_eq_ok.mp issued with ⟨named, issued⟩
  rcases bind_eq_ok.mp issued with ⟨signature, signed, issued⟩
  rcases failIf_bind_eq_ok.mp issued with ⟨-, issued⟩
  cases issued
  refine ⟨rfl, ?_⟩
  exact {
    encoded
    keyed := throwing_eq_ok.mp keyed
    named := not_not.mp named
    signed := throwing_eq_ok.mp signed
  }

/-- The message of a boolean tells its value. -/
theorem Issued.boolean_message {bbs : BbsLibrary} {sha256 : Bytes → Bytes} {secretKey : Bytes}
    {credential : Credential} (issued : Issued bbs sha256 secretKey credential)
    {name : ClaimName} {value : Bool}
    (boolean : credential.claims.value name = .boolean value)
    : credential.messages[claimIndex name]? = some (ofOctets name.text ++ js "=true")
      ↔ value = true := by
  obtain ⟨text, encoded, message⟩ := (encodeClaims_eq_ok issued.encoded).2 name
  have spelled : text = if value then js "true" else js "false" := by
    rw [boolean] at encoded
    cases name <;> cases boolean <;> exact (Except.ok.inj encoded).symm
  rw [message, spelled, Option.some.injEq, List.append_assoc, List.append_right_inj]
  cases value <;> decide

/-- A presentation derived from a credential. -/
structure Derived (bbs : BbsLibrary) (sha256 : Bytes → Bytes) (credential : Credential)
    (revealed : List Number) (proof : Proof)
    : Prop where
  disclosed : normalizeIndexes revealed = .ok proof.disclosedIndexes
  proved
    : ∃ header,
        presentationHeaderFor sha256 proof.binding = .ok header
        ∧ bbs.deriveProof credential.issuerPublicKey credential.signature
              (utf8ToBytes credentialHeader) (credential.messages.map utf8ToBytes) header
              proof.disclosedIndexes
            = some proof.proof
  sized
    : expectedProofBytes
        ((credential.messages.length : Number) - proof.disclosedIndexes.length)
      = .ok proof.proof.length
  read
    : proof.disclosedIndexes.map credential.messageAt = proof.disclosedMessages.map .ok

theorem derive_eq_ok {bbs : BbsLibrary} {sha256 : Bytes → Bytes} {credential : Credential}
    {revealed : List Number} {binding : ProofBinding} {proof : Proof}
    (derived : derive bbs sha256 credential revealed binding = .ok proof)
    : proof.binding = binding ∧ Derived bbs sha256 credential revealed proof := by
  rcases failIf_bind_eq_ok.mp derived with ⟨-, derived⟩
  rcases bind_eq_ok.mp derived with ⟨_, -, derived⟩
  rcases bind_eq_ok.mp derived with ⟨indexes, disclosed, derived⟩
  rcases bind_eq_ok.mp derived with ⟨header, bound, derived⟩
  rcases bind_eq_ok.mp derived with ⟨octets, proved, derived⟩
  rcases bind_eq_ok.mp derived with ⟨expected, sized, derived⟩
  rcases failIf_bind_eq_ok.mp derived with ⟨lengths, derived⟩
  rcases bind_eq_ok.mp derived with ⟨messages, read, derived⟩
  cases derived
  refine ⟨rfl, ?_⟩
  exact {
    disclosed
    proved := ⟨header, bound, throwing_eq_ok.mp proved⟩
    sized := sized.trans (congrArg Except.ok (not_not.mp lengths).symm)
    read := mapM_eq_ok.mp read
  }

/-- A derived presentation has a valid binding. -/
theorem assertValidBinding_of_derive {bbs : BbsLibrary} {sha256 : Bytes → Bytes}
    {credential : Credential}
    {revealed : List Number} {binding : ProofBinding} {proof : Proof}
    (derived : derive bbs sha256 credential revealed binding = .ok proof)
    : assertValidBinding binding = .ok () := by
  rcases failIf_bind_eq_ok.mp derived with ⟨-, derived⟩
  rcases bind_eq_ok.mp derived with ⟨_, valid, -⟩
  exact valid

/-- The disclosed indexes are distinct schema indexes. -/
theorem Derived.indexes {bbs : BbsLibrary} {sha256 : Bytes → Bytes} {credential : Credential}
    {revealed : List Number} {proof : Proof}
    (derived : Derived bbs sha256 credential revealed proof)
    : (∀ index, index ∈ proof.disclosedIndexes ↔ index ∈ revealed)
      ∧ (∀ index ∈ proof.disclosedIndexes, 0 ≤ index ∧ index < schemaAttributeCount)
      ∧ proof.disclosedIndexes.Pairwise (fun left right => left < right) := by
  rcases normalizeIndexes_eq_ok.mp derived.disclosed with ⟨inRange, distinct, sorted⟩
  have same (index : Number) : index ∈ proof.disclosedIndexes ↔ index ∈ revealed := by
    rw [sorted]
    exact List.mem_insertionSort _
  refine ⟨same, fun index member => inRange index ((same index).mp member), ?_⟩
  rw [sorted]
  have ordered := List.pairwise_insertionSort (fun left right : Number => left ≤ right) revealed
  have unique : (revealed.insertionSort (fun left right => left ≤ right)).Nodup :=
    (List.perm_insertionSort _ revealed).nodup_iff.mpr distinct
  exact (ordered.and unique).imp fun both => lt_of_le_of_ne both.1 both.2

/-- The message disclosed beside an index is the credential's. -/
theorem Derived.message {bbs : BbsLibrary} {sha256 : Bytes → Bytes} {credential : Credential}
    {revealed : List Number} {proof : Proof} {index : Nat} {message : JsString}
    (derived : Derived bbs sha256 credential revealed proof)
    (member : (index : Number) ∈ revealed)
    (held : credential.messages[index]? = some message)
    : ((index : Number), message) ∈ proof.disclosedIndexes.zip proof.disclosedMessages := by
  have shown := (derived.indexes.1 index).mpr member
  rcases List.getElem_of_mem shown with ⟨position, bound, here⟩
  have beside := congrArg (fun list => list[position]?) derived.read
  have found : credential.messageAt index = .ok message := by
    have natural : ¬ (index : Number) < 0 := Int.not_lt.mpr (Int.natCast_nonneg index)
    rw [Credential.messageAt, if_neg natural, Int.toNat_natCast, held]
  simp only [List.getElem?_map, List.getElem?_eq_getElem bound, here, Option.map_some,
    found] at beside
  rcases Option.map_eq_some_iff.mp beside.symm with ⟨other, there, same⟩
  obtain rfl := Except.ok.inj same
  have first : proof.disclosedIndexes[position]? = some (index : Number) := by
    rw [List.getElem?_eq_getElem bound, here]
  exact List.mem_of_getElem? (List.getElem?_zip_eq_some.mpr ⟨first, there⟩)

end StellarOnramp.Identity
