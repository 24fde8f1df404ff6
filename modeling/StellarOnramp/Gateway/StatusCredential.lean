import StellarOnramp.Identity.StatusList
import StellarOnramp.Library.Calendar

/-! The envelope of a published status list: its shape, its canonical text, and the signature
over it. A document is the JSON value that it travels as.
-/

namespace StellarOnramp.Gateway

open Attempts JsText Octets
open StellarOnramp.Identity

def statusCredentialFailure (message : JsString) : Failure :=
  { kind := .statusCredential, message }

def statusListCryptosuite : JsString := js "stellaronramp-eddsa-jcs-2026"
def statusListDomain : Bytes := ascii "stellaronramp.status-list.pub.v1"
def vcV2Context : JsString := js "https://www.w3.org/ns/credentials/v2"
def bitstringStatusListCredentialType : JsString := js "BitstringStatusListCredential"
def bitstringStatusListType : JsString := js "BitstringStatusList"

/-- The Ed25519 functions of the runtime. Keys are DER, and `none` is a throw. -/
structure Signatures where
  sign : (privateKey message : Bytes) → Option Bytes
  verify : (publicKey message signature : Bytes) → Option Bool

-----------------------------------------------------------------------------------------
-- Canonical text
-----------------------------------------------------------------------------------------

def isPrintable (key : JsString) : Bool :=
  key.all (fun unit => 0x20 ≤ unit && unit ≤ 0x7e)

/-- Keys sort by their code units. -/
def sortedByKey {α : Type} (members : List (JsString × α)) : List (JsString × α) :=
  members.insertionSort (fun left right => ¬ right.1 < left.1)

def refusingToCanonicalise (path complaint : JsString) : Failure :=
  statusCredentialFailure (js "refusing to canonicalise " ++ path ++ js ": " ++ complaint)

def numberComplaint : JsString :=
  js "only non-negative safe integers are supported. A full JCS implementation must reproduce "
    ++ js "ECMAScript Number::toString for every double, and a canonicaliser that is subtly "
    ++ js "wrong on floats produces a signature that verifies on one runtime and not another."

def keyComplaint (key : JsString) : JsString :=
  js "object key " ++ Json.quote key ++ js " is not printable ASCII, and JCS key ordering over "
    ++ js "non-BMP code points is where hand-rolled canonicalisers diverge"

/-- Every key of an object must be printable. -/
def assertKeys (path : JsString) : List (JsString × Attempt JsString) → Attempt Unit
  | [] => .ok ()
  | (key, _) :: rest => do
      failIf (isPrintable key = false) (refusingToCanonicalise path (keyComplaint key))
      assertKeys path rest

/-- The members of an object one after another. -/
def canonicalParts : List (JsString × Attempt JsString) → Attempt (List JsString)
  | [] => .ok []
  | (key, part) :: rest => do
      let text ← part
      let parts ← canonicalParts rest
      .ok ((Json.quote key ++ js ":" ++ text) :: parts)

mutual

/-- JCS for the values that a status list uses. -/
def canonicalJson (path : JsString) : Json.Value → Attempt JsString
  | .null => .ok (js "null")
  | .boolean value => .ok (if value then js "true" else js "false")
  | .number value => do
      failIf (value < 0 ∨ ¬ isSafeInteger value) (refusingToCanonicalise path numberComplaint)
      .ok (numberText value)
  | .fraction _ => .error (refusingToCanonicalise path numberComplaint)
  | .string text => .ok (Json.quote text)
  | .array items => do
      let parts ← canonicalItems path 0 items
      .ok (js "[" ++ Json.joined parts ++ js "]")
  | .object members => do
      let members := canonicalMembers path members
      assertKeys path members
      let parts ← canonicalParts (sortedByKey members)
      .ok (js "\x7b" ++ Json.joined parts ++ js "\x7d")

def canonicalItems (path : JsString) (position : Nat) : List Json.Value → Attempt (List JsString)
  | [] => .ok []
  | item :: rest => do
      let part ← canonicalJson (path ++ js "[" ++ numberText position ++ js "]") item
      let parts ← canonicalItems path (position + 1) rest
      .ok (part :: parts)

/-- The outcome for each member; the order in which they count is the one of the keys. -/
def canonicalMembers (path : JsString)
    : List (JsString × Json.Value) → List (JsString × Attempt JsString)
  | [] => []
  | (key, value) :: rest =>
      (key, canonicalJson (path ++ js "." ++ key) value) :: canonicalMembers path rest

end

/-- The octets that are signed. -/
def statusListSigningInput (sha256 : Bytes → Bytes) (document proofConfig : Json.Value)
    : Attempt Bytes := do
  let config ← canonicalJson (js "$") proofConfig
  let unsigned ← canonicalJson (js "$") (document.without (js "proof"))
  .ok (statusListDomain ++ sha256 (utf8ToBytes config) ++ sha256 (utf8ToBytes unsigned))

-----------------------------------------------------------------------------------------
-- Signing and verification
-----------------------------------------------------------------------------------------

def encodeProofValue (signature : Bytes) : JsString := 117 :: base64urlEncode signature

def decodeProofValue (proofValue : Option Json.Value) : Attempt Bytes :=
  match proofValue with
  | some (.string (first :: rest)) => do
      failIf (first ≠ 117)
        (statusCredentialFailure
          (js "status list proofValue must use the multibase \"u\" (base64url-no-pad) prefix, "
            ++ js "got \"" ++ [first] ++ js "\""))
      let bytes ← base64urlDecode rest
      failIf (bytes.length ≠ 64)
        (statusCredentialFailure
          (js "status list proofValue decodes to " ++ numberText bytes.length
            ++ js " bytes; an Ed25519 signature is 64"))
      .ok bytes
  | _ =>
      .error
        (statusCredentialFailure
          (js "status list proofValue must be a non-empty multibase string"))

/-- A 32-octet seed, or a private key in PKCS #8. -/
structure SigningKey where
  seed : Option Bytes
  pkcs8Der : Option Bytes

/-- The octets before the seed in the PKCS #8 form of an Ed25519 key. -/
def pkcs8Prologue : Bytes :=
  [0x30, 0x2e, 0x02, 0x01, 0x00, 0x30, 0x05, 0x06, 0x03, 0x2b, 0x65, 0x70, 0x04, 0x22, 0x04, 0x20]

/-- The octets before the raw key in the SubjectPublicKeyInfo form of an Ed25519 key. -/
def spkiPrologue : Bytes :=
  [0x30, 0x2a, 0x30, 0x05, 0x06, 0x03, 0x2b, 0x65, 0x70, 0x03, 0x21, 0x00]

def assertSeed (seed : Option Bytes) : Attempt Bytes := do
  let failure :=
    statusCredentialFailure
      (js "a status list signing key must be a 32-byte Ed25519 seed or a PKCS#8 DER private key")
  match seed with
  | none => .error failure
  | some seed =>
      failIf (seed.length ≠ 32) failure
      .ok seed

/-- The DER of a signing key. -/
def SigningKey.privateKey (key : SigningKey) : Attempt Bytes :=
  match key.pkcs8Der with
  | some der => .ok der
  | none => do
      let seed ← assertSeed key.seed
      .ok (pkcs8Prologue ++ seed)

def signStatusListCredential (signatures : Signatures) (sha256 : Bytes → Bytes)
    (document : Json.Value) (key : SigningKey) (proofConfig : Json.Value)
    : Attempt Json.Value := do
  let privateKey ← key.privateKey
  let input ← statusListSigningInput sha256 document proofConfig
  let signature ← throwing (signatures.sign privateKey input)
  .ok
    (document.extend (js "proof")
      (proofConfig.extend (js "proofValue") (.string (encodeProofValue signature))))

def clamp (value : JsString) : JsString :=
  if value.length ≤ 96 then
    value
  else
    value.take 96 ++ js "... (" ++ numberText value.length ++ js " chars)"

/-- A member that must be a non-empty string. -/
def assertMember (document : Json.Value) (key complaint : JsString) : Attempt Unit :=
  failIf (((Json.text document key).getD []) = [])
    (statusCredentialFailure
      (js "refusing a status list credential with no " ++ key ++ js "; " ++ complaint))

def envelopeComplaint : JsString := js "the field is required by the envelope"

/-- An array member that must include a string. -/
def memberIncludes (document : Json.Value) (key text : JsString) : Bool :=
  ((document.get key).bind Json.Value.asArray).any
    (fun items => Json.Value.includesText items text)

def assertDocumentShape (value : Json.Value) : Attempt Unit := do
  failIf (value.isObject = false)
    (statusCredentialFailure (js "a status list credential must be a JSON object"))
  failIf (memberIncludes value (js "@context") vcV2Context = false)
    (statusCredentialFailure
      (js "refusing a status list credential whose @context does not include \"" ++ vcV2Context
        ++ js "\""))
  failIf (memberIncludes value (js "type") bitstringStatusListCredentialType = false)
    (statusCredentialFailure
      (js "refusing a document that is not a " ++ bitstringStatusListCredentialType
        ++ js "; reading a bit out of some other credential type would be reading an "
        ++ js "attacker-chosen bitstring"))
  assertMember value (js "id") envelopeComplaint
  assertMember value (js "issuer") envelopeComplaint
  assertMember value (js "validFrom") envelopeComplaint
  assertMember value (js "validUntil")
    (js "a list with no expiry is a list a stale mirror can serve forever")
  match value.get (js "credentialSubject") with
  | some (.object members) =>
      let subject := Json.Value.object members
      failIf (Json.text subject (js "type") ≠ some bitstringStatusListType)
        (statusCredentialFailure
          (js "refusing a credentialSubject of type \""
            ++ Json.memberText (subject.get (js "type")) ++ js "\"; expected \""
            ++ bitstringStatusListType ++ js "\""))
      failIf
        (Json.text subject (js "statusPurpose") = none
          ∨ Json.text subject (js "encodedList") = none)
        (statusCredentialFailure
          (js "a status list credentialSubject must carry a string statusPurpose and a string "
            ++ js "encodedList"))
  | _ =>
      .error
        (statusCredentialFailure
          (js "a status list credential must carry a credentialSubject object"))

/-- What a verifier expects of a document; it comes from its configuration. -/
structure ExpectedSigner where
  publicKeyRaw : Bytes
  issuer : JsString
  verificationMethod : Option JsString
  deriving DecidableEq

/-- The labels of a proof. -/
def assertProofLabels (proof : Json.Value) : Attempt Unit := do
  failIf (Json.text proof (js "type") ≠ some (js "DataIntegrityProof"))
    (statusCredentialFailure
      (js "refusing a status list proof of type \""
        ++ Json.memberText (proof.get (js "type"))
        ++ js "\"; only DataIntegrityProof is supported"))
  failIf (Json.text proof (js "cryptosuite") ≠ some statusListCryptosuite)
    (statusCredentialFailure
      (js "refusing a status list proof with cryptosuite \""
        ++ Json.memberText (proof.get (js "cryptosuite"))
        ++ js "\"; this verifier only accepts \"" ++ statusListCryptosuite
        ++ js "\" and the suite is pinned server-side, never read from the document. "
        ++ js "Dispatching on a document-supplied algorithm name is the same bug class as "
        ++ js "trusting X-Payload-Digest-Alg."))
  failIf (Json.text proof (js "proofPurpose") ≠ some (js "assertionMethod"))
    (statusCredentialFailure
      (js "refusing a status list proof whose proofPurpose is \""
        ++ Json.memberText (proof.get (js "proofPurpose"))
        ++ js "\"; a proof made for authentication or key agreement must not be reusable as an "
        ++ js "assertion"))

/-- The document and its proof name the pinned signer. -/
def assertSigner (document proof : Json.Value) (expected : ExpectedSigner) : Attempt Unit := do
  failIf (Json.text document (js "issuer") ≠ some expected.issuer)
    (statusCredentialFailure
      (js "refusing a status list credential issued by \""
        ++ clamp (Json.memberText (document.get (js "issuer")))
        ++ js "\"; this verifier is pinned to \"" ++ clamp expected.issuer
        ++ js "\". A correctly-signed list from the WRONG issuer is exactly what an attacker who "
        ++ js "controls any other issuer key would serve."))
  failIf
    (expected.verificationMethod.any
        (fun label => Json.text proof (js "verificationMethod") != some label)
      = true)
    (statusCredentialFailure
      (js "refusing a status list credential signed by verificationMethod \""
        ++ clamp (Json.memberText (proof.get (js "verificationMethod"))) ++ js "\"; expected \""
        ++ clamp (expected.verificationMethod.getD []) ++ js "\""))
  failIf (expected.publicKeyRaw.length ≠ 32)
    (statusCredentialFailure
      (js "refusing to verify a status list without a pinned 32-byte raw Ed25519 public key; a "
        ++ js "key read from the document itself would make every forgery self-consistent and "
        ++ js "therefore valid"))

/-- Verify the proof of a document against a pinned signer. -/
def verifyStatusListCredential (signatures : Signatures) (sha256 : Bytes → Bytes)
    (document : Json.Value) (expected : ExpectedSigner)
    : Attempt Unit := do
  assertDocumentShape document
  match document.get (js "proof") with
  | none =>
      .error
        (statusCredentialFailure
          (js "refusing an UNSIGNED status list credential. An unsigned list means anyone who can "
            ++ js "write to the origin, the CDN or the bucket can un-revoke every holder at once "
            ++ js "(the status-list design note)."))
  | some proof => do
      assertProofLabels proof
      assertSigner document proof expected
      let signature ← decodeProofValue (proof.get (js "proofValue"))
      let input ← statusListSigningInput sha256 document (proof.without (js "proofValue"))
      let ok ← throwing (signatures.verify (spkiPrologue ++ expected.publicKeyRaw) input signature)
      failIf (ok = false)
        (statusCredentialFailure
          (js "refusing a status list credential whose Ed25519 proof does not verify against the "
            ++ js "pinned issuer key. Either the document was tampered with in transit (which is "
            ++ js "the MITM-un-revokes-everybody case the status-list design note names) or the "
            ++ js "pinned key is wrong."))

/-- The subject in the shape that the decoder takes. -/
def toBitstringStatusList (document : Json.Value) : BitstringStatusList :=
  let subject := (document.get (js "credentialSubject")).getD .null
  {
    statusPurpose := (Json.text subject (js "statusPurpose")).getD []
    encodedList := (Json.text subject (js "encodedList")).getD []
    statusSize := subject.get (js "statusSize")
    statusMessage := subject.get (js "statusMessage")
  }

-----------------------------------------------------------------------------------------
-- Dates
-----------------------------------------------------------------------------------------

/-- The seconds of a `Z`-suffixed date text. -/
def parseXsdDateTime (value : Option Json.Value) (field : JsString) : Attempt Number :=
  match value with
  | some (.string text) =>
      match Calendar.readDateTime text with
      | none =>
          .error
            (statusCredentialFailure
              (js "status list " ++ field
                ++ js " must be a Z-suffixed UTC XSD dateTime, got \"" ++ clamp text
                ++ js "\"; an offset-bearing or naive timestamp makes the validity window "
                ++ js "runtime-dependent"))
      | some (fields, whole) =>
          match Calendar.dateParse fields whole with
          | none =>
              .error
                (statusCredentialFailure
                  (js "status list " ++ field ++ js " \"" ++ clamp text
                    ++ js "\" is not a real instant"))
          | some seconds => .ok seconds
  | _ => .error (statusCredentialFailure (js "status list " ++ field ++ js " must be a string"))

/-- The last second that a `Date` reaches. -/
def lastSecond : Nat := 8640000000000

/-- The date text of an instant: `toISOString` up to its seconds. -/
def dateText (unixSeconds : Number) : JsString :=
  (Calendar.isoText (Calendar.fieldsAt unixSeconds.toNat)).take 19 ++ js "Z"

def toXsdDateTime (unixSeconds : Number) : Attempt JsString := do
  failIf (unixSeconds < 0)
    (statusCredentialFailure
      (js "refusing to format " ++ numberText unixSeconds
        ++ js " as a dateTime; expected non-negative unix seconds"))
  -- `toISOString` throws a RangeError past the last second.
  failIf (unixSeconds > lastSecond) libraryFailure
  .ok (dateText unixSeconds)

end StellarOnramp.Gateway
