import StellarOnramp.Gateway.StatusPublisher
import StellarOnramp.GatewayHttp.Sessions

/-! The handlers of the routes. A handler that waits for something outside the gateway is cut
there: its first part runs at once and its last part when the answer is in.
-/

namespace StellarOnramp.GatewayHttp

open Attempts JsText Octets
open StellarOnramp.Identity StellarOnramp.Gateway

-----------------------------------------------------------------------------------------
-- Configuration
-----------------------------------------------------------------------------------------

/-- Who keeps the revoked indexes: a set in memory, or a set that is also in a file. -/
inductive StatusListStore where
  | inMemory
  | jsonFile

/-- The indexes as a store lists them, given in the order of their revocation. -/
def StatusListStore.revokedIndexes (store : StatusListStore) (revoked : List Number)
    : List Number :=
  match store with
  | inMemory => revoked
  | jsonFile => revoked.mergeSort

@[simp]
theorem StatusListStore.mem_revokedIndexes (store : StatusListStore) (revoked : List Number)
    (index : Number)
    : index ∈ store.revokedIndexes revoked ↔ index ∈ revoked := by
  cases store with
  | inMemory => rfl
  | jsonFile => exact List.mem_mergeSort

/-- What the server is built with. What its stores hold is part of the state, its clock and its
seams part of the events.
-/
structure AppConfig where
  network : JsString
  networkPassphrase : JsString
  kycGateContractId : JsString
  kycRegistryContractId : JsString
  issuerPublicKey : Bytes
  issuerSecretKey : Bytes
  statusListUrl : JsString
  statusListSigningKey : SigningKey
  verificationMethod : JsString
  statusListStore : StatusListStore
  auth : Option SessionJwtConfig

/-- Everything under the server that is not part of the code. -/
structure GatewayLibraries extends StatusLibraries where
  bbs : BbsLibrary
  curves : CurveLibrary
  tokens : TokenSignatures
  /-- The generators of the ciphersuite, uncompressed; `none` where deriving them throws. -/
  createGenerators : Option (List Bytes)

/-- A server: its configuration and what it runs on. -/
structure GatewayServer where
  config : AppConfig
  libraries : GatewayLibraries

/-- What a handler reads of its request. -/
structure RouteContext where
  requestId : JsString
  params : RouteParams
  json : Option Json.Value
  auth : Option AuthenticatedRequest

/-- A session that is stored, while its applicant and its token are awaited. -/
structure OpenedSession where
  sessionId : JsString
  now : Number

namespace GatewayServer

variable (server : GatewayServer)

def ourIssuer : JsString :=
  issuerIdFromPublicKey server.libraries.sha256 server.config.issuerPublicKey

-----------------------------------------------------------------------------------------
-- Public documents
-----------------------------------------------------------------------------------------

def ciphersuite : JsString := js "BLS12-381-SHA-256"

/-- `sha256(g_1 ‖ … ‖ g_{L+1}), each g_i the 96-byte uncompressed be(X) ‖ be(Y)` -/
def generatorsRootEncoding : JsString :=
  js "sha256(g_1 " ++ [0x2016] ++ js " " ++ [0x2026] ++ js " " ++ [0x2016]
    ++ js " g_\x7bL+1\x7d), each g_i the 96-byte uncompressed be(X) " ++ [0x2016] ++ js " be(Y)"

def wellKnownHandler : Handling Json.Value := do
  let generators ← ofAttempt (throwing server.libraries.createGenerators)
  let pkCompressed := server.config.issuerPublicKey
  let pkUncompressed ← ofAttempt (decompressG2 server.libraries.curves pkCompressed)
  .ok
    (.object
      [
        (js "issuer_id", .string server.ourIssuer),
        (js "pk_g2_compressed", .string (bytesToHex pkCompressed)),
        (js "pk_g2_uncompressed", .string (bytesToHex pkUncompressed)),
        (js "ciphersuite", .string ciphersuite),
        (js "schema_version", .string schemaVersion),
        (js "registry_contract_id", .string server.config.kycRegistryContractId),
        (js "gate_contract_id", .string server.config.kycGateContractId),
        (js "network", .string server.config.network),
        (js "network_passphrase", .string server.config.networkPassphrase),
        (js "generators_root",
          .string (bytesToHex (server.libraries.sha256 generators.flatten))),
        (js "generators_encoding", .string generatorsRootEncoding),
        (js "generators", .array (generators.map (fun point => .string (bytesToHex point))))
      ])

def schemaNotFound (version : JsString) : HttpError :=
  {
    status := 404
    code := js "schema_not_found"
    retriable := false
    message :=
      js "no schema version \"" ++ version ++ js "\"; the only version is " ++ schemaVersion
  }

def schemaHandler (context : RouteContext) : Handling Json.Value := do
  let version := (context.params.lookup (js "version")).getD (js "undefined")
  failIf (version ≠ schemaVersion) (.http (schemaNotFound version))
  .ok
    (.object
      [
        (js "schema_version", .string schemaVersion),
        (js "attribute_count", .number schemaAttributeCount),
        (js "ciphersuite", .string ciphersuite),
        (js "credential_header", .string credentialHeader),
        (js "claim_index",
          .object
            (claimSpecs.map
              (fun spec => (ofOctets spec.name.text, .number (claimIndex spec.name)))))
      ])

def healthzHandler : Json.Value :=
  .object [(js "status", .string (js "ok")), (js "service", .string (js "gateway-http"))]

def readyzHandler : Json.Value :=
  .object [(js "status", .string (js "ready")), (js "network", .string server.config.network)]

-----------------------------------------------------------------------------------------
-- The status list
-----------------------------------------------------------------------------------------

def issuerConfigIncomplete : HttpError :=
  {
    status := 503
    code := js "issuer_config_incomplete"
    retriable := true
    message := js "issuer public key is not a 96-byte compressed G2 point"
  }

def statusListNotFound : HttpError :=
  {
    status := 404
    code := js "status_list_not_found"
    retriable := false
    message := js "no status list for that issuer id"
  }

/-- What the publisher is asked for. -/
def statusListRequest (revoked : List Number) (now : Number) : PublishStatusListRequest :=
  {
    url := server.config.statusListUrl
    issuer := server.ourIssuer
    verificationMethod := server.config.verificationMethod
    statusPurpose := js "revocation"
    revoked := server.config.statusListStore.revokedIndexes revoked
    entries := none
    statusSize := none
    validFromSeconds := now
    validUntilSeconds := none
    signingKey := server.config.statusListSigningKey
  }

def statusListHandler (revoked : List Number) (context : RouteContext) (now : Number)
    : Handling Json.Value := do
  failIf (server.config.issuerPublicKey.length ≠ g2CompressedBytes)
    (.http issuerConfigIncomplete)
  failIf (context.params.lookup (js "issuer_id") ≠ some server.ourIssuer)
    (.http statusListNotFound)
  ofAttempt
    (publishStatusList server.libraries.toStatusLibraries
      (server.statusListRequest revoked now))

-----------------------------------------------------------------------------------------
-- Sessions
-----------------------------------------------------------------------------------------

def sessionJwtTtlSeconds : Nat := 15 * 60

/-- The checks before the session is stored: the wallet it is for. -/
def sessionHandler (context : RouteContext) : Handling JsString := do
  let body := asRecord context.json
  let walletCAddr ← assertCAddress (body.get (js "wallet_c_addr")) (js "wallet_c_addr")
  let _ ← requireChainId body
  .ok walletCAddr

def sessionBody (opened : OpenedSession) (sessionToken : JsString) : Json.Value :=
  .object
    [
      (js "session_id", .string opened.sessionId),
      (js "session_token", .string sessionToken),
      (js "expires_at", .number (opened.now + sessionJwtTtlSeconds))
    ]

-----------------------------------------------------------------------------------------
-- Issuing
-----------------------------------------------------------------------------------------

def defaultCredentialLifetimeSeconds : Nat := 24 * 60 * 60

def unknownSession : HttpError :=
  {
    status := 409
    code := js "session_not_approved"
    retriable := false
    message := js "the session is not approved"
  }

/-- What is issued for a session; the wallet is the session's. -/
def issueRequest (sessionId : JsString) (session : SessionRecord) (claims : ClaimSet)
    (now expiresAt : Number)
    : IssueCredentialRequest :=
  {
    claims
    walletAddress := session.walletCAddr
    issuedAt := now
    expiresAt
    issuerSecretKey := server.config.issuerSecretKey
    issuerPublicKey := server.config.issuerPublicKey
    provider := js "kyc-provider"
    providerRefId := sessionId
    subjectId := sessionId
  }

/-- The gates of an issue request, and its preparation up to the allocator. -/
def issueHandler (sessions : SessionStore) (context : RouteContext) (now : Number)
    (salt : Bytes)
    : Handling PreparedIssuance := do
  let body := asRecord context.json
  let sessionId ← requireString body (js "sessionId")
  match sessions sessionId with
  | none => .error (.http unknownSession)
  | some session => do
      -- Ownership is checked before approval, so that the state of a foreign session is not told.
      let _ ← assertSessionSubjectBinding context.auth session.walletCAddr
      sessions.assertApproved sessionId
      let claims ← readClaimSet body
      let expiresAt ← optionalU32 body (js "expiresAt")
      ofIssuing
        (prepareIssuance server.libraries.sha256
          (server.issueRequest sessionId session claims now
            (expiresAt.getD (now + defaultCredentialLifetimeSeconds)))
          salt)

def claimJson : ClaimValue → Json.Value
  | .string value => .string value
  | .number value => .number value
  | .boolean value => .boolean value

def credentialJson (serialized : SerializedCredential) : Json.Value :=
  .object
    [
      (js "schemaVersion", .string serialized.schemaVersion),
      (js "messages", .array (serialized.messages.map .string)),
      (js "signature", .string serialized.signature),
      (js "issuerPublicKey", .string serialized.issuerPublicKey),
      (js "claims",
        .object
          (claimSpecs.map
            (fun spec => (ofOctets spec.name.text, claimJson (serialized.claims.value spec.name)))))
    ]

def issuedBody (issued : IssuedCredential) : Json.Value :=
  .object
    [
      (js "credential", credentialJson issued.serialized),
      (js "claim_bitmap", .number issued.claimBitmap),
      (js "revocation_index", .number issued.record.revocationIndex),
      (js "subject_binding_salt", .string (bytesToHex issued.subjectBindingSalt))
    ]

end GatewayServer

end StellarOnramp.GatewayHttp
