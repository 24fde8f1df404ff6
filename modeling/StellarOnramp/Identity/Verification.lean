import Mathlib.Data.Rat.Defs
import StellarOnramp.Identity.Credential
import StellarOnramp.Identity.DisclosedClaims
import StellarOnramp.Identity.StatusList

/-! Full verification of a presentation, in the segments between the points where it waits:
the checks before the BBS library, those on the disclosed values, the status list, and last
the single use of the binding.
-/

namespace StellarOnramp.Identity

open Attempts JsText Octets

-----------------------------------------------------------------------------------------
-- Single use of a binding
-----------------------------------------------------------------------------------------

def bindingDigestHex (sha256 : Bytes → Bytes) (b : ProofBinding) : Attempt JsString := do
  let digest ← bindingDigest sha256 b
  .ok (bytesToHex digest)

/-- The digests of the bindings that were used. -/
structure ReplayGuard where
  consumed : List JsString

/-- Mark a binding used, unless it was before. -/
def ReplayGuard.consume (sha256 : Bytes → Bytes) (replayGuard : ReplayGuard)
    (binding : ProofBinding)
    : Attempt (Bool × ReplayGuard) := do
  let key ← bindingDigestHex sha256 binding
  if key ∈ replayGuard.consumed then
    .ok (false, replayGuard)
  else
    .ok (true, { consumed := key :: replayGuard.consumed })

-----------------------------------------------------------------------------------------
-- Options and outcomes
-----------------------------------------------------------------------------------------

/-- A required safety field: only the explicit skip switches its check off. -/
inductive Policy (α : Type) where
  | unsafeSkip
  | enforce (asked : α)

/-- Where a status list comes from. A list that is not an object is `none`. -/
inductive StatusListSource where
  | list (supplied : Option BitstringStatusList)
  | resolver

/-- What a resolver is asked. -/
structure StatusListRequest where
  revocationIndex : Number
  issuerId : Option JsString
  statusPurpose : JsString

/-- The options; a value of the wrong kind, which plain JavaScript can pass, is `none` (or
`false` for a replay guard that is not one).
-/
structure VerifyOptions where
  currentLedger : Policy (Option Number)
  /-- Unix seconds. -/
  currentTime : Policy (Option ℚ)
  expectedSubjectBinding : Policy (Option JsString)
  statusList : Policy StatusListSource
  replayGuard : Policy Bool
  statusPurpose : Option JsString
  /-- In the order of the object's entries; `none` is `undefined`. -/
  expectedClaims : Policy (Option (List (JsString × Option ClaimValue)))
  expectedDisclosedIndexes : Policy (Option (List Number))

def issuanceClockSkewSeconds : Nat := 300

inductive VerifyFailure where
  | schemaVersion
  | bindingMismatch
  | bindingInvalid
  | expired
  | credentialExpired
  | subjectMismatch
  | malformedProof
  | disclosureShape
  | unknownIndex
  | messageIndexMismatch
  | claimMismatch
  | revoked
  | statusListInvalid
  | replayed
  | bbsInvalid
  | error
  deriving DecidableEq

structure Rejection where
  reason : VerifyFailure
  detail : JsString
  deriving DecidableEq

def fail (reason : VerifyFailure) (detail : JsString) : Rejection := { reason, detail }

/-- A check of the verification. -/
abbrev Check := Except Rejection

/-- An error that is caught and named by a reason. -/
def catching {α : Type} (reason : VerifyFailure) (before : JsString) : Attempt α → Check α
  | .ok value => .ok value
  | .error failure => .error (fail reason (before ++ failure.message))

theorem catching_eq_ok {α : Type} {reason : VerifyFailure} {before : JsString}
    {attempt : Attempt α} {value : α}
    : catching reason before attempt = .ok value ↔ attempt = .ok value := by
  cases attempt <;> simp [catching]

/-- What one call of the verification is given. -/
structure VerifyCall where
  proof : Proof
  issuerPubKey : Bytes
  expectedBinding : ProofBinding
  options : VerifyOptions

/-- The libraries under the verification: `verifyProof` is `none` where it throws, and
`timeText` writes a time, which may be a fraction, as text.
-/
structure VerifierLibraries where
  sha256 : Bytes → Bytes
  verifyProof
    : (publicKey proof header presentationHeader : Bytes)
      → (disclosedMessages : List Bytes)
      → (disclosedMessageIndexes : List Number)
      → Option Bool
  platform : Platform
  timeText : ℚ → JsString

-----------------------------------------------------------------------------------------
-- Before the BBS library
-----------------------------------------------------------------------------------------

/-- The proof must carry the binding that was demanded. -/
def checkBinding (sha256 : Bytes → Bytes) (proof expected : ProofBinding) : Check Unit := do
  catching .bindingInvalid [] (assertValidBinding expected)
  let proofDigest ← catching .bindingInvalid [] (bindingDigestHex sha256 proof)
  let expectedDigest ← catching .error [] (bindingDigestHex sha256 expected)
  failIf (proofDigest ≠ expectedDigest)
    (fail .bindingMismatch (js "proof binding does not match expected binding"))

def malformedLedger : Rejection :=
  fail .error
    (js "options.currentLedger must be a non-negative integer ledger sequence or UNSAFE_SKIP")

def checkLedger (ledgerExpiry : Number) : Policy (Option Number) → Check Unit
  | .unsafeSkip => .ok ()
  | .enforce none => .error malformedLedger
  | .enforce (some currentLedger) => do
      failIf (currentLedger < 0) malformedLedger
      failIf (currentLedger > ledgerExpiry)
        (fail .expired
          (js "ledger " ++ numberText currentLedger ++ js " is past expiry "
            ++ numberText ledgerExpiry))

/-- The indexes must be in range and strictly ascending. -/
def checkIndexes (previous : Option Number) : List Number → Check Unit
  | [] => .ok ()
  | idx :: rest => do
      failIf (idx < 0 ∨ idx ≥ schemaAttributeCount)
        (fail .unknownIndex (js "index " ++ numberText idx ++ js " not in schema"))
      failIf (previous.any (fun before => decide (idx ≤ before)) = true)
        (fail .disclosureShape (js "disclosed indexes must be strictly ascending"))
      checkIndexes (some idx) rest

def joinNumbers (numbers : List Number) : JsString :=
  (js ",").intercalate (numbers.map numberText)

def malformedIndexes : Rejection :=
  fail .error
    (js "options.expectedDisclosedIndexes must be an array of in-range integer claim indexes "
      ++ js "(0..11) or UNSAFE_SKIP; note [] means \"reveal nothing\", not \"skip the check\"")

/-- The disclosure is exactly the one that was asked for. -/
def checkDisclosure (got : List Number) : Policy (Option (List Number)) → Check Unit
  | .unsafeSkip => .ok ()
  | .enforce none => .error malformedIndexes
  | .enforce (some want) => do
      failIf (∃ idx ∈ want, idx < 0 ∨ idx ≥ schemaAttributeCount) malformedIndexes
      let wantSorted := want.insertionSort (fun left right => left ≤ right)
      failIf (wantSorted ≠ got)
        (fail .disclosureShape
          (js "expectedDisclosedIndexes [" ++ joinNumbers wantSorted
            ++ js "] does not match the proof's disclosure set [" ++ joinNumbers got ++ js "]"))

/-- The length of the proof must leave as many messages hidden as the indexes do. -/
def checkHiddenCount (proofLength : Nat) (disclosed : Nat) : Check Unit := do
  let u ← catching .malformedProof [] (undisclosedCountFromProofBytes proofLength)
  failIf ((u : Int) ≠ (schemaAttributeCount : Int) - disclosed)
    (fail .disclosureShape
      (js "proof encodes U=" ++ numberText u ++ js " but " ++ numberText disclosed
        ++ js " of 12 indexes are claimed disclosed"))

/-- Everything before the BBS library is called: the decoded claims and the presentation
header that it is called with.
-/
def checkStructure (libraries : VerifierLibraries) (call : VerifyCall)
    : Check (Decoded × Bytes) := do
  let proof := call.proof
  failIf (proof.schemaVersion ≠ schemaVersion)
    (fail .schemaVersion (js "proof is schema v" ++ proof.schemaVersion))
  checkBinding libraries.sha256 proof.binding call.expectedBinding
  checkLedger call.expectedBinding.ledgerExpiry call.options.currentLedger
  failIf (proof.totalMessages ≠ schemaAttributeCount)
    (fail .disclosureShape
      (js "totalMessages " ++ numberText proof.totalMessages ++ js " != schema size"))
  failIf (proof.disclosedIndexes.length ≠ proof.disclosedMessages.length)
    (fail .disclosureShape (js "disclosed index/message length mismatch"))
  checkIndexes none proof.disclosedIndexes
  catching .disclosureShape (js "refusing a proof that discloses a PII-bearing attribute: ")
    (assertNoPiiDisclosed proof.disclosedIndexes)
  checkDisclosure proof.disclosedIndexes call.options.expectedDisclosedIndexes
  checkHiddenCount proof.proof.length proof.disclosedIndexes.length
  let decoded ←
    catching .messageIndexMismatch []
      (decodeDisclosed proof.disclosedIndexes proof.disclosedMessages)
  let header ←
    catching .malformedProof (js "BBS+ ProofVerify threw: ")
      (presentationHeaderFor libraries.sha256 call.expectedBinding)
  .ok (decoded, header)

/-- What the BBS library says of the proof. -/
def VerifierLibraries.proofVerdict (libraries : VerifierLibraries) (call : VerifyCall)
    (presentationHeader : Bytes)
    : Option Bool :=
  libraries.verifyProof call.issuerPubKey call.proof.proof (utf8ToBytes credentialHeader)
    presentationHeader (call.proof.disclosedMessages.map utf8ToBytes)
    call.proof.disclosedIndexes

-----------------------------------------------------------------------------------------
-- The disclosed values
-----------------------------------------------------------------------------------------

def checkVerdict : Option Bool → Check Unit
  | none => .error (fail .malformedProof (js "BBS+ ProofVerify threw: "))
  | some ok => failIf (ok = false) (fail .bbsInvalid (js "BBS+ ProofVerify returned false"))

/-- The signed schema version and issuer id, where they are disclosed. -/
def checkSigned (sha256 : Bytes → Bytes) (issuerPubKey : Bytes) (decoded : Decoded)
    : Check Unit := do
  failIf
    ((decoded .schemaVersion).any (fun signed => signed != .string schemaVersion) = true)
    (fail .schemaVersion
      (js "credential is signed as schema v"
        ++ ((decoded .schemaVersion).map ClaimValue.text).getD [] ++ js ", verifier is v"
        ++ schemaVersion))
  failIf
    ((decoded .issuerId).any
        (fun signed => signed != .string (issuerIdFromPublicKey sha256 issuerPubKey))
      = true)
    (fail .claimMismatch (js "disclosed issuerId does not match the verifying public key"))

/-- The credential's own lifetime. The sum of a fraction and the skew is taken exactly. -/
def checkTime (libraries : VerifierLibraries) (decoded : Decoded)
    : Policy (Option ℚ) → Check Unit
  | .unsafeSkip => .ok ()
  | .enforce none =>
      .error
        (fail .error
          (js "options.currentTime must be a finite unix-seconds number or UNSAFE_SKIP"))
  | .enforce (some currentTime) =>
      match decoded .expiresAt with
      | some (.number expiresAt) => do
          failIf (currentTime > expiresAt)
            (fail .credentialExpired
              (js "credential expired at " ++ numberText expiresAt ++ js ", current time "
                ++ libraries.timeText currentTime))
          match decoded .issuedAt with
          | some (.number issuedAt) =>
              failIf ((issuedAt : ℚ) > currentTime + issuanceClockSkewSeconds)
                (fail .credentialExpired
                  (js "credential issuedAt " ++ numberText issuedAt ++ js " is in the future"))
          | _ => .ok ()
      | _ =>
          .error
            (fail .disclosureShape
              (js "expiry enforcement requested but the proof does not disclose expiresAt "
                ++ js "(index 4); compose credentialAudit() into the predicate"))

def checkSubject (decoded : Decoded) : Policy (Option JsString) → Check Unit
  | .unsafeSkip => .ok ()
  | .enforce expected =>
      match decoded .subjectBinding with
      | some (.string subject) =>
          failIf (some subject ≠ expected)
            (fail .subjectMismatch (js "credential is bound to a different subject"))
      | _ =>
          .error
            (fail .disclosureShape
              (js "subject-binding enforcement requested but the proof does not disclose "
                ++ js "subjectBinding (index 5); compose credentialAudit() into the predicate"))

/-- The claim that a key of an options object names. -/
def claimNamed (name : JsString) : Option ClaimName :=
  (claimSpecs.find? (fun spec => ofOctets spec.name.text == name)).map ClaimSpec.name

/-- One expected value after another; `undefined` expects nothing. A name that is no claim
fails, also where every object inherits it.
-/
def checkEntries (decoded : Decoded) : List (JsString × Option ClaimValue) → Check Unit
  | [] => .ok ()
  | (_, none) :: rest => checkEntries decoded rest
  | (name, some want) :: rest =>
      match (claimNamed name).bind decoded with
      | none =>
          .error
            (fail .claimMismatch (js "claim \"" ++ name ++ js "\" was not disclosed"))
      | some got => do
          failIf (got ≠ want)
            (fail .claimMismatch
              (js "claim \"" ++ name ++ js "\" is " ++ got.text ++ js ", expected "
                ++ want.text))
          checkEntries decoded rest

def checkClaims (decoded : Decoded)
    : Policy (Option (List (JsString × Option ClaimValue))) → Check Unit
  | .unsafeSkip => .ok ()
  | .enforce none =>
      .error
        (fail .error
          (js "options.expectedClaims must be a PLAIN claim-name -> value object (possibly "
            ++ js "{}) or UNSAFE_SKIP; a Map, Set, Date, Promise, array or class instance is "
            ++ js "refused rather than silently read as \"no value policy\""))
  | .enforce (some expected) => checkEntries decoded expected

/-- Everything between the verdict of the BBS library and the status list. -/
def checkDisclosed (libraries : VerifierLibraries) (call : VerifyCall) (decoded : Decoded)
    (verdict : Option Bool)
    : Check Unit := do
  checkVerdict verdict
  checkSigned libraries.sha256 call.issuerPubKey decoded
  checkTime libraries decoded call.options.currentTime
  checkSubject decoded call.options.expectedSubjectBinding
  checkClaims decoded call.options.expectedClaims

-----------------------------------------------------------------------------------------
-- The status list
-----------------------------------------------------------------------------------------

def VerifyOptions.purpose (options : VerifyOptions) : JsString :=
  options.statusPurpose.getD (js "revocation")

/-- What a resolver is asked; the credential must disclose its index. -/
def statusRequest (options : VerifyOptions) (decoded : Decoded) : Check StatusListRequest :=
  match decoded .revocationIndex with
  | some (.number revocationIndex) =>
      .ok
        {
          revocationIndex
          issuerId :=
            match decoded .issuerId with
            | some (.string issuerId) => some issuerId
            | _ => none
          statusPurpose := options.purpose
        }
  | _ =>
      .error
        (fail .disclosureShape
          (js "revocation checking requested but the proof does not disclose revocationIndex "
            ++ js "(index 2); compose credentialAudit() into the predicate, or use "
            ++ js "gateOnrampPredicate()"))

/-- The status of the credential in the list. -/
def statusOf (platform : Platform) (request : StatusListRequest)
    (resolved : Option BitstringStatusList)
    : Attempt Number :=
  match resolved with
  | none =>
      .error
        (statusListFailure
          (js "status list must be an object with statusPurpose and encodedList"))
  | some list => do
      let decoded ← decodeStatusList platform list (some request.statusPurpose)
      statusAt decoded request.revocationIndex

def checkStatus (platform : Platform) (request : StatusListRequest)
    (resolved : Option BitstringStatusList)
    : Check Unit := do
  let status ← catching .statusListInvalid [] (statusOf platform request resolved)
  failIf (status ≠ 0)
    (fail .revoked
      (js "credential is "
        ++ (if request.statusPurpose = js "suspension" then js "suspended" else js "revoked")
        ++ js ": status " ++ numberText status ++ js " at " ++ request.statusPurpose
        ++ js " list index " ++ numberText request.revocationIndex))

-----------------------------------------------------------------------------------------
-- The end
-----------------------------------------------------------------------------------------

/-- Use the binding up, after every other check. A guard that is not one has no `consume`. -/
def spendBinding (sha256 : Bytes → Bytes) (call : VerifyCall) (replayGuard : ReplayGuard)
    : Check ReplayGuard :=
  match call.options.replayGuard with
  | .unsafeSkip => .ok replayGuard
  | .enforce false => .error (fail .error [])
  | .enforce true => do
      let (fresh, spent) ← catching .error [] (replayGuard.consume sha256 call.expectedBinding)
      failIf (fresh = false) (fail .replayed (js "binding nonce already consumed"))
      .ok spent

end StellarOnramp.Identity
