import Mathlib.Data.Rat.Defs
import StellarOnramp.Gateway.StatusCredential

/-! The publisher of status lists: it encodes the revoked entries and signs the document. -/

namespace StellarOnramp.Gateway

open Attempts JsText Octets
open StellarOnramp.Identity

/-- A parsed URL. -/
structure Url where
  protocol : JsString
  username : JsString
  password : JsString
  href : JsString

/-- Everything under the status lists that is not part of the code. -/
structure StatusLibraries where
  platform : Platform
  sha256 : Bytes → Bytes
  signatures : Signatures
  /-- `new URL`, with the base of a relative reference; `none` where it throws. -/
  parseUrl : (raw : JsString) → (base : Option JsString) → Option Url
  /-- `JSON.parse` of UTF-8 text. -/
  parseJson : Bytes → Option Json.Value
  /-- The text of a number that may be a fraction. -/
  fractionText : ℚ → JsString

/-- Only an absolute HTTPS URL without credentials. -/
def assertHttpsUrl (libraries : StatusLibraries) (raw what : JsString) : Attempt Url := do
  failIf (raw = [])
    (statusCredentialFailure (js "refusing a " ++ what ++ js " that is not a non-empty string"))
  match libraries.parseUrl raw none with
  | none =>
      .error
        (statusCredentialFailure
          (js "refusing a " ++ what ++ js " that is not an absolute URL: \"" ++ raw.take 96
            ++ js "\". A protocol-relative \"//host/path\" is deliberately refused here rather "
            ++ js "than resolved against a base " ++ [0x2014] ++ js " resolving it would inherit "
            ++ js "whatever scheme the caller happened to be on."))
  | some url => do
      failIf (url.protocol ≠ js "https:")
        (statusCredentialFailure
          (js "refusing a " ++ what ++ js " with scheme \"" ++ url.protocol
            ++ js "\"; HTTPS ONLY. Over plain HTTP an on-path attacker can serve an all-zero "
            ++ js "bitstring and UN-REVOKE EVERY HOLDER (the status-list design note). file:, "
            ++ js "data: and blob: are refused for the same reason plus local-file disclosure."))
      failIf (url.username ≠ [] ∨ url.password ≠ [])
        (statusCredentialFailure
          (js "refusing a " ++ what ++ js " that embeds credentials in its authority; "
            ++ js "\"https://a@b/\" points at b, not a, and that is invisible at a glance in a log "
            ++ js "line"))
      .ok url

def defaultStatusListValiditySeconds : Nat := 24 * 60 * 60

structure PublishStatusListRequest where
  url : JsString
  issuer : JsString
  verificationMethod : JsString
  statusPurpose : JsString
  revoked : List Number
  entries : Option Number
  statusSize : Option Number
  validFromSeconds : Number
  validUntilSeconds : Option Number
  signingKey : SigningKey

def PublishStatusListRequest.validUntil (request : PublishStatusListRequest) : Number :=
  request.validUntilSeconds.getD (request.validFromSeconds + defaultStatusListValiditySeconds)

/-- Refuse an index that would set no bit. -/
def assertRevoked : List Number → Attempt Unit
  | [] => .ok ()
  | index :: rest => do
      failIf (index < 0)
        (statusCredentialFailure
          (js "refusing to publish a status list with revoked index " ++ numberText index
            ++ js "; a non-integer or negative index would silently set no bit at all, i.e. would "
            ++ js "fail to revoke someone"))
      assertRevoked rest

def PublishStatusListRequest.encoding (request : PublishStatusListRequest)
    : EncodeStatusListOptions :=
  {
    statusPurpose := request.statusPurpose
    set := request.revoked
    entries := request.entries
    statusSize := request.statusSize
  }

/-- A member that is left out where it is undefined. -/
def optionalMember (key : JsString) : Option Json.Value → List (JsString × Json.Value)
  | none => []
  | some value => [(key, value)]

def credentialSubject (url : JsString) (list : BitstringStatusList) : Json.Value :=
  .object
    ([
        (js "id", .string (url ++ js "#list")),
        (js "type", .string bitstringStatusListType),
        (js "statusPurpose", .string list.statusPurpose),
        (js "encodedList", .string list.encodedList)
      ]
      ++ optionalMember (js "statusSize") list.statusSize
      ++ optionalMember (js "statusMessage") list.statusMessage)

def unsignedDocument (request : PublishStatusListRequest) (list : BitstringStatusList)
    (validFrom validUntil : JsString)
    : Json.Value :=
  .object
    [
      (js "@context", .array [.string vcV2Context]),
      (js "id", .string request.url),
      (js "type",
        .array [.string (js "VerifiableCredential"), .string bitstringStatusListCredentialType]),
      (js "issuer", .string request.issuer),
      (js "validFrom", .string validFrom),
      (js "validUntil", .string validUntil),
      (js "credentialSubject", credentialSubject request.url list)
    ]

def proofConfigOf (request : PublishStatusListRequest) (created : JsString) : Json.Value :=
  .object
    [
      (js "type", .string (js "DataIntegrityProof")),
      (js "cryptosuite", .string statusListCryptosuite),
      (js "created", .string created),
      (js "verificationMethod", .string request.verificationMethod),
      (js "proofPurpose", .string (js "assertionMethod"))
    ]

/-- Build and sign a status list. -/
def publishStatusList (libraries : StatusLibraries) (request : PublishStatusListRequest)
    : Attempt Json.Value := do
  let _ ← assertHttpsUrl libraries request.url (js "status list URL")
  failIf (request.issuer = [])
    (statusCredentialFailure (js "refusing to publish a status list with no issuer"))
  failIf (request.verificationMethod = [])
    (statusCredentialFailure
      (js "refusing to publish a status list with no verificationMethod; a verifier pinned to a "
        ++ js "key label cannot check the label it was given"))
  let validFrom := request.validFromSeconds
  let validUntil := request.validUntil
  failIf (validFrom < 0)
    (statusCredentialFailure
      (js "refusing to publish a status list with validFrom " ++ numberText validFrom))
  failIf (validUntil ≤ validFrom)
    (statusCredentialFailure
      (js "refusing to publish a status list whose validUntil (" ++ numberText validUntil
        ++ js ") is not strictly after its validFrom (" ++ numberText validFrom
        ++ js "); a zero-length or inverted validity window is a list that is expired the instant "
        ++ js "it is served, which fails every verification CLOSED"))
  assertRevoked request.revoked
  let list ← encodeStatusList libraries.platform request.encoding
  let validFromText ← toXsdDateTime validFrom
  let validUntilText ← toXsdDateTime validUntil
  let created ← toXsdDateTime validFrom
  signStatusListCredential libraries.signatures libraries.sha256
    (unsignedDocument request list validFromText validUntilText) request.signingKey
    (proofConfigOf request created)

end StellarOnramp.Gateway
