import Mathlib.Logic.Function.Basic
import StellarOnramp.Gateway.StatusPublisher
import StellarOnramp.Library.Doubles
import StellarOnramp.Library.Transitions

/-! The resolver of status lists: it fetches the list of a pinned issuer, verifies it and keeps
a copy for a while. Times are unix seconds and may be fractions; their sums and differences are
rounded to double precision.
-/

namespace StellarOnramp.Gateway

open Attempts JsText Octets
open StellarOnramp.Identity
open Transitions
open Doubles (rounded)

inductive ResolutionReason where
  | unknownIssuer
  | issuerUndisclosed
  | redirectDowngrade
  | tooManyRedirects
  | httpError
  | responseTooLarge
  | timeout
  | transport
  | malformed
  | proofInvalid
  | notYetValid
  | expired
  | stale
  | purposeMismatch
  deriving DecidableEq

/-- An error of the resolver itself, or one that passes through it. -/
inductive ResolveFailure where
  | resolution (reason : ResolutionReason) (message : JsString)
  | thrown (failure : Failure)

abbrev Resolution := Except ResolveFailure

/-- An error that passes through. -/
def rethrowing {α : Type} : Attempt α → Resolution α
  | .ok value => .ok value
  | .error failure => .error (.thrown failure)

theorem rethrowing_eq_ok {α : Type} {attempt : Attempt α} {value : α}
    : rethrowing attempt = .ok value ↔ attempt = .ok value := by
  cases attempt <;> simp [rethrowing]

def defaultStatusListMaxAgeSeconds : Nat := 300
def defaultStatusListCacheTtlSeconds : Nat := 60
def defaultStatusListTimeoutMs : Nat := 5000
def maxStatusListRedirects : Nat := 3

-----------------------------------------------------------------------------------------
-- Configuration
-----------------------------------------------------------------------------------------

/-- One pinned issuer. The key is configuration. -/
structure PinnedStatusListIssuer where
  issuerId : JsString
  url : JsString
  publicKeyRaw : Bytes
  documentIssuer : JsString
  verificationMethod : Option JsString
  deriving DecidableEq

/-- The signer that documents of the issuer must have. -/
def PinnedStatusListIssuer.signer (pinned : PinnedStatusListIssuer) : ExpectedSigner :=
  {
    publicKeyRaw := pinned.publicKeyRaw
    issuer := pinned.documentIssuer
    verificationMethod := pinned.verificationMethod
  }

structure HardenedStatusListResolverConfig where
  issuers : List PinnedStatusListIssuer
  maxAgeSeconds : Option ℚ
  cacheTtlSeconds : Option ℚ
  timeoutMs : Option Number
  maxBytes : Option Number
  maxRedirects : Option Number
  defaultIssuerId : Option JsString

/-- A resolver that was built. -/
structure HardenedStatusListResolver where
  issuers : List PinnedStatusListIssuer
  maxAge : ℚ
  cacheTtl : ℚ
  timeoutMs : Number
  maxBytes : Number
  maxRedirects : Number
  defaultIssuerId : Option JsString

/-- Pin the issuers one after another. -/
def pinIssuers (libraries : StatusLibraries) (pinned : List PinnedStatusListIssuer)
    : List PinnedStatusListIssuer → Resolution (List PinnedStatusListIssuer)
  | [] => .ok pinned
  | issuer :: rest => do
      let _ ←
        rethrowing
          (assertHttpsUrl libraries issuer.url
            (js "pinned status list URL for issuer " ++ issuer.issuerId))
      failIf (issuer.publicKeyRaw.length ≠ 32)
        (.resolution .proofInvalid
          (js "refusing to pin issuer " ++ issuer.issuerId
            ++ js " without a 32-byte raw Ed25519 public key"))
      failIf (issuer.issuerId ∈ pinned.map PinnedStatusListIssuer.issuerId)
        (.resolution .unknownIssuer
          (js "refusing two pinned configurations for issuer " ++ issuer.issuerId
            ++ js "; the later one would silently win and nobody would know which key is in "
            ++ js "force"))
      pinIssuers libraries (pinned ++ [issuer]) rest

/-- The constructor. -/
def buildResolver (libraries : StatusLibraries) (config : HardenedStatusListResolverConfig)
    : Resolution HardenedStatusListResolver := do
  failIf (config.issuers = [])
    (.resolution .unknownIssuer
      (js "refusing to build a status list resolver with no pinned issuers; a resolver with no "
        ++ js "pinned key would have to take the key from the document, and every forgery is "
        ++ js "self-consistent"))
  let issuers ← pinIssuers libraries [] config.issuers
  let maxAge := config.maxAgeSeconds.getD defaultStatusListMaxAgeSeconds
  let cacheTtl := config.cacheTtlSeconds.getD defaultStatusListCacheTtlSeconds
  failIf (maxAge ≤ 0)
    (.resolution .stale
      (js "refusing a status list freshness bound of " ++ libraries.fractionText maxAge
        ++ js "s; a non-positive or infinite bound is the same as no bound, which is the "
        ++ js "week-long revocation window the status-list design note warns about"))
  failIf (cacheTtl > maxAge)
    (.resolution .stale
      (js "refusing a cache TTL (" ++ libraries.fractionText cacheTtl
        ++ js "s) longer than the freshness bound (" ++ libraries.fractionText maxAge
        ++ js "s); the cache would serve a copy the freshness check would reject, which is the "
        ++ js "time-of-check/time-of-use gap with extra steps"))
  .ok
    {
      issuers
      maxAge
      cacheTtl
      timeoutMs := config.timeoutMs.getD defaultStatusListTimeoutMs
      maxBytes := config.maxBytes.getD maxStatusListBytes
      maxRedirects := config.maxRedirects.getD maxStatusListRedirects
      defaultIssuerId := config.defaultIssuerId
    }

-----------------------------------------------------------------------------------------
-- Fetching
-----------------------------------------------------------------------------------------

structure StatusListHttpResponse where
  status : Number
  location : Option JsString
  body : Bytes

/-- What one request comes to: a response, or one of the ways in which it throws. -/
inductive HttpOutcome where
  | response (response : StatusListHttpResponse)
  | refused (reason : ResolutionReason) (message : JsString)
  | aborted
  | failed

/-- The target of a redirect. -/
def redirectTarget (libraries : StatusLibraries) (url : JsString)
    (response : StatusListHttpResponse)
    : Resolution JsString := do
  let location := response.location.getD []
  failIf (location = [])
    (.resolution .malformed
      (js "refusing a status list whose " ++ numberText response.status
        ++ js " response carries no Location header"))
  match libraries.parseUrl location (some url) with
  | none =>
      .error (.resolution .malformed (js "status list redirect Location is not a URL"))
  | some next => do
      failIf (next.protocol ≠ js "https:")
        (.resolution .redirectDowngrade
          (js "refusing a status list redirect from " ++ url ++ js " to scheme \""
            ++ next.protocol ++ js "\". A redirect that downgrades to plain HTTP hands an on-path "
            ++ js "attacker the ability to serve an all-zero bitstring and un-revoke every holder, "
            ++ js "while the configured URL still reads https:// (the status-list design note)."))
      let _ ← rethrowing (assertHttpsUrl libraries next.href (js "status list redirect target"))
      .ok next.href

/-- Follow redirects through the outcomes of the requests; `none` while one is still out. -/
def followRedirects (libraries : StatusLibraries) (resolver : HardenedStatusListResolver)
    (url : JsString) (hops : Nat)
    : List HttpOutcome → Option (Resolution (StatusListHttpResponse × JsString))
  | [] => none
  | .refused reason message :: _ => some (.error (.resolution reason message))
  | .aborted :: _ =>
      some
        (.error
          (.resolution .timeout
            (js "refusing to verify against a status list whose fetch timed out after "
              ++ numberText resolver.timeoutMs
              ++ js "ms; a hung fetch is a verification that never completes, which is worse than "
              ++ js "one that fails")))
  | .failed :: _ =>
      some
        (.error
          (.resolution .transport
            (js "refusing to verify against a status list that could not be fetched from "
              ++ url)))
  | .response response :: rest =>
      if 300 ≤ response.status ∧ response.status < 400 then
        if (hops + 1 : Int) > resolver.maxRedirects then
          some
            (.error
              (.resolution .tooManyRedirects
                (js "refusing a status list after " ++ numberText (hops + 1 : Nat)
                  ++ js " redirects (cap " ++ numberText resolver.maxRedirects
                  ++ js "); an unbounded redirect chain is a fetch that never ends")))
        else
          match redirectTarget libraries url response with
          | .error failure => some (.error failure)
          | .ok next => followRedirects libraries resolver next (hops + 1) rest
      else
        some (.ok (response, url))

structure CacheEntry where
  document : Json.Value
  list : BitstringStatusList
  validFromSeconds : Number
  validUntilSeconds : Number
  fetchedAtSeconds : ℚ

/-- The proof of a document; every error is one of the proof. -/
def verifyFetched (libraries : StatusLibraries) (pinned : PinnedStatusListIssuer)
    (url : JsString) (document : Json.Value)
    : Resolution Unit :=
  match
    verifyStatusListCredential libraries.signatures libraries.sha256 document pinned.signer
  with
  | .ok () => .ok ()
  | .error failure =>
      .error
        (.resolution .proofInvalid
          (js "refusing a status list from " ++ url
            ++ js " whose own proof did not verify against the pinned issuer key: "
            ++ failure.message))

/-- Verify what was fetched. -/
def verifyResponse (libraries : StatusLibraries) (resolver : HardenedStatusListResolver)
    (pinned : PinnedStatusListIssuer) (now : ℚ) (url : JsString)
    (response : StatusListHttpResponse)
    : Resolution CacheEntry := do
  failIf (response.status ≠ 200)
    (.resolution .httpError
      (js "refusing to verify against a status list that returned HTTP "
        ++ numberText response.status
        ++ js ". Note that this FAILS the verification closed rather than treating an unavailable "
        ++ js "list as \"nobody is revoked\"."))
  failIf ((response.body.length : Int) > resolver.maxBytes)
    (.resolution .responseTooLarge
      (js "refusing a " ++ numberText response.body.length
        ++ js "-byte status list response, past the " ++ numberText resolver.maxBytes
        ++ js "-byte cap"))
  match libraries.parseJson response.body with
  | none =>
      .error
        (.resolution .malformed
          (js "refusing a status list document from " ++ url ++ js " that is not valid JSON"))
  | some document => do
      verifyFetched libraries pinned url document
      let validFromSeconds ←
        rethrowing (parseXsdDateTime (document.get (js "validFrom")) (js "validFrom"))
      let validUntilSeconds ←
        rethrowing (parseXsdDateTime (document.get (js "validUntil")) (js "validUntil"))
      failIf (validUntilSeconds ≤ validFromSeconds)
        (.resolution .malformed
          (js "refusing a status list whose validUntil is not after its validFrom"))
      let list := toBitstringStatusList document
      let _ ← rethrowing (decodeStatusList libraries.platform list (some list.statusPurpose))
      .ok { document, list, validFromSeconds, validUntilSeconds, fetchedAtSeconds := now }

/-- Fetch the list of an issuer and verify it; `none` while a request is out. -/
def fetchAndVerify (libraries : StatusLibraries) (resolver : HardenedStatusListResolver)
    (pinned : PinnedStatusListIssuer) (now : ℚ) (outcomes : List HttpOutcome)
    : Option (Resolution CacheEntry) :=
  match assertHttpsUrl libraries pinned.url (js "status list URL") with
  | .error failure => some (.error (.thrown failure))
  | .ok url =>
      (followRedirects libraries resolver url.href 0 outcomes).map (fun fetched =>
        fetched >>= fun (response, source) =>
          verifyResponse libraries resolver pinned now source response)

-----------------------------------------------------------------------------------------
-- Resolving
-----------------------------------------------------------------------------------------

/-- The document is neither of the future, nor expired, nor stale. -/
def assertTemporallyUsable (libraries : StatusLibraries) (resolver : HardenedStatusListResolver)
    (entry : CacheEntry) (now : ℚ) (pinned : PinnedStatusListIssuer)
    : Resolution Unit := do
  failIf (rounded (now + 60) < entry.validFromSeconds)
    (.resolution .notYetValid
      (js "refusing a status list from " ++ pinned.url ++ js " whose validFrom is "
        ++ libraries.fractionText (rounded (entry.validFromSeconds - now))
        ++ js "s in the future; either a clock is wrong or a staged document was published early, "
        ++ js "and reading revocation bits out of either is guesswork"))
  failIf (now ≥ entry.validUntilSeconds)
    (.resolution .expired
      (js "refusing an EXPIRED status list from " ++ pinned.url ++ js " (validUntil was "
        ++ libraries.fractionText (rounded (now - entry.validUntilSeconds))
        ++ js "s ago). Reading a stale bit out of an expired list is exactly what an attacker "
        ++ js "replaying an old document wants, so this fails the verification closed instead."))
  let documentAge := rounded (now - entry.validFromSeconds)
  failIf (documentAge > resolver.maxAge)
    (.resolution .stale
      (js "refusing a status list from " ++ pinned.url ++ js " that is "
        ++ libraries.fractionText documentAge ++ js "s old, past this verifier's own "
        ++ libraries.fractionText resolver.maxAge
        ++ js "s freshness bound (the issuer's validUntil would still have allowed it for another "
        ++ libraries.fractionText (rounded (entry.validUntilSeconds - now))
        ++ js "s). This bound is INDEPENDENT of validUntil on purpose: it is what lets a relying "
        ++ js "party be stricter than the issuer and is the only closure for the revocation window "
        ++ js "in the status-list design note."))

def assertPurpose (list : BitstringStatusList) (wanted url : JsString) : Resolution Unit :=
  failIf (list.statusPurpose ≠ wanted)
    (.resolution .purposeMismatch
      (js "refusing to answer a \"" ++ wanted ++ js "\" question from a \""
        ++ list.statusPurpose ++ js "\" list at " ++ url
        ++ js "; reading a suspension bit as a revocation bit (or the reverse) is a wrong answer "
        ++ js "delivered confidently"))

/-- The checks that a fresh document and a cached one both pass. -/
def assertUsable (libraries : StatusLibraries) (resolver : HardenedStatusListResolver)
    (entry : CacheEntry) (now : ℚ) (pinned : PinnedStatusListIssuer) (wanted : JsString)
    : Resolution CacheEntry := do
  assertTemporallyUsable libraries resolver entry now pinned
  assertPurpose entry.list wanted pinned.url
  .ok entry

/-- What a resolution is asked. -/
structure ResolveRequest where
  issuerId : Option JsString
  statusPurpose : JsString

/-- The issuer that a request is about. -/
def pinnedFor (resolver : HardenedStatusListResolver) (request : ResolveRequest)
    : Resolution PinnedStatusListIssuer :=
  match request.issuerId <|> resolver.defaultIssuerId with
  | none =>
      .error
        (.resolution .issuerUndisclosed
          (js "refusing to resolve a status list for a proof that did not disclose issuerId (claim "
            ++ js "index 1) when no defaultIssuerId is configured. Guessing an issuer would read "
            ++ js "one issuer's revocation bit out of another issuer's list, which un-revokes "
            ++ js "anybody the first one revoked. Compose credentialAudit() into the predicate to "
            ++ js "disclose index 1, or set defaultIssuerId explicitly for a single-issuer "
            ++ js "deployment."))
  | some issuerId =>
      match resolver.issuers.find? (fun pinned => pinned.issuerId = issuerId) with
      | none =>
          .error
            (.resolution .unknownIssuer
              (js "refusing to resolve a status list for unpinned issuer \"" ++ issuerId.take 96
                ++ js "\". An unpinned issuer has no pinned key, and a list we cannot authenticate "
                ++ js "is not evidence that a credential is live."))
      | some pinned => .ok pinned

/-- A call of `resolve`: waiting for its fetch, or settled. -/
inductive ResolveStage where
  | fetching (pinned : PinnedStatusListIssuer) (now : ℚ)
  | settled (pinned : Option PinnedStatusListIssuer) (outcome : Resolution CacheEntry)

structure ResolveCall where
  request : ResolveRequest
  stage : ResolveStage

/-- The copies by URL, and the calls. -/
structure ResolverState where
  cache : JsString → Option CacheEntry
  calls : Nat → Option ResolveCall

def ResolverState.fresh : ResolverState :=
  { cache := fun _ => none, calls := fun _ => none }

inductive ResolverEvent where
  | resolve (id : Nat) (request : ResolveRequest) (now : ℚ)
  | fetched (id : Nat) (outcomes : List HttpOutcome)
  | invalidate

/-- Up to the fetch: a live copy settles the call at once. -/
def startResolve (libraries : StatusLibraries) (resolver : HardenedStatusListResolver)
    (cache : JsString → Option CacheEntry) (request : ResolveRequest) (now : ℚ)
    : ResolveStage :=
  match pinnedFor resolver request with
  | .error failure => .settled none (.error failure)
  | .ok pinned =>
      match cache pinned.url with
      | some cached =>
          if rounded (now - cached.fetchedAtSeconds) < resolver.cacheTtl then
            .settled (some pinned)
              (assertUsable libraries resolver cached now pinned request.statusPurpose)
          else
            .fetching pinned now
      | none => .fetching pinned now

/-- All runs of a resolver. A result is the entry whose list is returned. -/
def resolverMachine (libraries : StatusLibraries) (resolver : HardenedStatusListResolver)
    : Machine ResolverState ResolverEvent where
  step state event :=
    match event with
    | .invalidate => some { state with cache := fun _ => none }
    | .resolve id request now =>
        match state.calls id with
        | some _ => none
        | none =>
            let stage := startResolve libraries resolver state.cache request now
            some { state with calls := Function.update state.calls id (some { request, stage }) }
    | .fetched id outcomes =>
        match state.calls id with
        | some { request, stage := .fetching pinned now } =>
            (fetchAndVerify libraries resolver pinned now outcomes).map (fun fetched =>
              let outcome := fetched >>= fun entry =>
                assertUsable libraries resolver entry now pinned request.statusPurpose
              let settled : ResolveCall :=
                { request, stage := .settled (some pinned) outcome }
              {
                -- A copy is kept only after every check.
                cache :=
                  match outcome with
                  | .ok entry => Function.update state.cache pinned.url (some entry)
                  | .error _ => state.cache
                calls := Function.update state.calls id (some settled)
              })
        | _ => none

end StellarOnramp.Gateway
