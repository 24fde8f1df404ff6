import Mathlib.Algebra.Order.Field.Rat
import Mathlib.Algebra.Order.Ring.Cast
import StellarOnramp.Gateway.PublishSuccess
import StellarOnramp.Gateway.StatusFetches

/-! Publishing a list and resolving it again: exactly which published lists a resolver with
default limits accepts, and what their entries then read as.
-/

namespace StellarOnramp.Gateway

open Attempts JsText Octets
open StellarOnramp.Identity
open Transitions
open Doubles

/-- A resolver with default limits that pins the publisher of a request. -/
structure PinsPublisher (libraries : StatusLibraries) (request : PublishStatusListRequest)
    (publicKeyRaw : Bytes) (resolver : HardenedStatusListResolver)
    (pinned : PinnedStatusListIssuer)
    : Prop where
  built
    : ∃ issuers defaultIssuerId,
        buildResolver libraries (defaultLimits issuers defaultIssuerId) = .ok resolver
  member : pinned ∈ resolver.issuers
  url : pinned.url = request.url
  issuer : pinned.documentIssuer = request.issuer
  method : pinned.verificationMethod = some request.verificationMethod
  key : pinned.publicKeyRaw = publicKeyRaw

/-- Every entry of a resolved list reads as it was published. -/
def ReadsBack (platform : Platform) (request : PublishStatusListRequest)
    (list : BitstringStatusList)
    : Prop :=
  ∃ decoded,
    decodeStatusList platform list (some request.statusPurpose) = .ok decoded
    ∧ ∀ index : Nat,
        (index : Number) < request.entries.getD minimumStatusListEntries
        → ∃ status,
            statusAt decoded index = .ok status
            ∧ (status ≠ 0 ↔ (index : Number) ∈ request.revoked)

/-- The resolver is asked for the purpose and served the document. -/
def askAndServe (request : PublishStatusListRequest) (document : Json.Value)
    (pinned : PinnedStatusListIssuer) (id : Nat) (now : ℚ)
    : List ResolverEvent :=
  [
    .resolve id
      { issuerId := some pinned.issuerId, statusPurpose := request.statusPurpose }
      now,
    .fetched id [.response (servedResponse document)]
  ]

/-- The document is accepted at every instant of its window that is fresh, by every resolver
that pins its publisher and has no live copy, and reads back.
-/
def AcceptedThroughout (libraries : StatusLibraries) (request : PublishStatusListRequest)
    (document : Json.Value) (publicKeyRaw : Bytes)
    : Prop :=
  ∀ resolver pinned now state id,
    PinsPublisher libraries request publicKeyRaw resolver pinned
    → (request.validFromSeconds : ℚ) ≤ now
    → now < request.validUntil
    → now - request.validFromSeconds ≤ defaultStatusListMaxAgeSeconds
    → NoLiveCopy resolver state pinned.url now
    → state.calls id = none
    → ∃ call entry,
        ((resolverMachine libraries resolver).run state
            (askAndServe request document pinned id now)).calls id
          = some call
        ∧ call.stage = .settled (some pinned) (.ok entry)
        ∧ ReadsBack libraries.platform request entry.list

/-- The years of the window have four digits, and the bits and the document fit. -/
structure Resolvable (platform : Platform) (request : PublishStatusListRequest) : Prop where
  dated : request.validUntil < firstLateSecond
  fits
    : request.entries.getD minimumStatusListEntries * request.statusSize.getD 1
      ≤ 8 * maxStatusListBytes
  short
    : ∀ (entries statusSize : Nat) bits,
        request.entries.getD minimumStatusListEntries = entries
        → request.statusSize.getD 1 = statusSize
        → Marks entries statusSize request.revoked bits
        → documentOctets request statusSize (platform.gzip bits).length ≤ maxStatusListBytes

section

variable {libraries : StatusLibraries} {request : PublishStatusListRequest}
  {document : Json.Value} {publicKeyRaw : Bytes} {list : BitstringStatusList}
  {input signature : Bytes} {entries statusSize : Nat} {bits : Bytes}

/-- The size of the list, read from the request. -/
theorem fits_iff
    (encoded : Encoded libraries.platform request.encoding list entries statusSize bits)
    : request.entries.getD minimumStatusListEntries * request.statusSize.getD 1
        ≤ 8 * maxStatusListBytes
      ↔ bits.length ≤ maxStatusListBytes := by
  have counted : request.entries.getD minimumStatusListEntries = entries := encoded.counted
  have requested : request.statusSize.getD 1 = statusSize := encoded.requested
  have length := encoded.length
  have same : ((entries : Int) * statusSize ≤ 8 * maxStatusListBytes)
      ↔ entries * statusSize ≤ 8 * maxStatusListBytes := by
    exact_mod_cast Iff.rfl
  rw [counted, requested]
  apply same.trans
  omega

theorem Published.servedBody_length
    (published : Published libraries request list input signature document)
    (encoded : Encoded libraries.platform request.encoding list entries statusSize bits)
    (signed : signature.length = 64) (dated : request.validUntil < firstLateSecond)
    : (servedBody document).length
      = documentOctets request statusSize (libraries.platform.gzip bits).length := by
  have fourDigits {seconds : Number} (early : seconds < firstLateSecond)
      : (Calendar.fieldsAt seconds.toNat).year ≤ 9999 := by
    have small (seconds : Int) (early : seconds < firstLateSecond)
        : seconds.toNat < firstLateSecond := by
      rw [firstLateSecond] at early ⊢
      omega
    exact Calendar.fieldsAt_year_le.mpr (small seconds early)
  exact
    published.octets_eq encoded signed (fourDigits (published.window.trans dated))
      (fourDigits dated)

/-- What the resolver makes of the document when it fits and its signer is pinned. -/
theorem Published.fetchAndVerify_served
    (published : Published libraries request list input signature document)
    (encoded : Encoded libraries.platform request.encoding list entries statusSize bits)
    (roundTrips : libraries.platform.RoundTrips)
    (signs : SignsFor libraries.signatures request.signingKey publicKeyRaw)
    (parses : libraries.parseJson (servedBody document) = some document)
    {resolver : HardenedStatusListResolver} {pinned : PinnedStatusListIssuer}
    (well : PinnedWell libraries pinned) (names : NamesSigner request pinned.signer)
    (key : pinned.publicKeyRaw = publicKeyRaw)
    (fits : bits.length ≤ maxStatusListBytes) (dated : request.validUntil < firstLateSecond)
    (short
      : (documentOctets request statusSize (libraries.platform.gzip bits).length : Int)
        ≤ resolver.maxBytes)
    (now : ℚ)
    : fetchAndVerify libraries resolver pinned now [.response (servedResponse document)]
      = some (.ok (publishedEntry request list document now)) := by
  obtain ⟨der, keyed, written⟩ := published.signed
  obtain ⟨signed, checked⟩ := signs.verifies der input signature keyed written
  have verified
      : verifyStatusListCredential libraries.signatures libraries.sha256 document pinned.signer
        = .ok () := by
    refine published.verify_eq_ok.mpr ⟨names, well.key, signed, ?_⟩
    rw [PinnedStatusListIssuer.signer, key]
    exact checked
  rw [← published.servedBody_length encoded signed dated] at short
  have fetched
      : Fetched libraries resolver pinned now (servedResponse document)
          (publishedEntry request list document now) :=
    (published.fetched_iff encoded roundTrips parses).mpr ⟨short, fits, dated, verified, rfl⟩
  obtain ⟨url, answered⟩ :=
    fetchAndVerify_response resolver now well
      (show (servedResponse document).status = 200 from rfl)
  rwa [verifyResponse_eq_ok.mpr fetched] at answered

/-- The entry of a document answers for its purpose at the fresh instants of its window. -/
theorem publishedEntry_usable
    (encoded : Encoded libraries.platform request.encoding list entries statusSize bits)
    (resolver : HardenedStatusListResolver) (document : Json.Value) (fetchedAt : ℚ) {now : ℚ}
    (exact : |request.validFromSeconds| < 2 ^ 53)
    (begun : (request.validFromSeconds : ℚ) ≤ now) (valid : now < request.validUntil)
    (fresh : rounded (now - request.validFromSeconds) ≤ resolver.maxAge)
    : Usable resolver (publishedEntry request list document fetchedAt) now
        request.statusPurpose where
  begun := by
    rw [publishedEntry, ← rounded_intCast exact]
    exact rounded_mono (begun.trans (le_add_of_nonneg_right (by norm_num)))
  valid := valid
  fresh := fresh
  purpose := by
    rw [publishedEntry, encoded.list, wireList_statusPurpose]
    rfl

/-- Served at a fresh instant of its window, a resolvable document is accepted. -/
theorem Published.accepted
    (published : Published libraries request list input signature document)
    (encoded : Encoded libraries.platform request.encoding list entries statusSize bits)
    (roundTrips : libraries.platform.RoundTrips)
    (signs : SignsFor libraries.signatures request.signingKey publicKeyRaw)
    (parses : libraries.parseJson (servedBody document) = some document)
    (resolvable : Resolvable libraries.platform request)
    : AcceptedThroughout libraries request document publicKeyRaw := by
  intro resolver pinned now state id pins begun valid fresh stale free
  obtain ⟨issuers, defaultIssuerId, build⟩ := pins.built
  obtain ⟨built, -, maxAge, maxBytes⟩ := buildResolver_eq_ok build
  have well := built.pinned pinned pins.member
  have fits := (fits_iff encoded).mp resolvable.fits
  have marks := encoded.marks (addressable_of_fits fits)
  have names : NamesSigner request pinned.signer := by
    refine { issuer := pins.issuer.symm, method := fun label known => ?_ }
    exact Option.some.inj (pins.method.symm.trans (Option.mem_def.mp known))
  have short
      : (documentOctets request statusSize (libraries.platform.gzip bits).length : Int)
        ≤ resolver.maxBytes := by
    have limit : resolver.maxBytes = maxStatusListBytes := maxBytes
    rw [limit]
    exact_mod_cast resolvable.short entries statusSize bits encoded.counted encoded.requested marks
  have answered :=
    published.fetchAndVerify_served encoded roundTrips signs parses well names pins.key fits
      resolvable.dated short now
  have exact : |request.validFromSeconds| < 2 ^ 53 := by
    have late := published.window.trans resolvable.dated
    rw [firstLateSecond] at late
    rw [abs_of_nonneg published.natural]
    exact late.trans (by decide)
  have age : rounded (now - request.validFromSeconds) ≤ resolver.maxAge := by
    rw [maxAge]
    have bound
        : rounded (defaultStatusListMaxAgeSeconds : Int) = (defaultStatusListMaxAgeSeconds : Int) :=
      rounded_intCast (by decide)
    exact (rounded_mono fresh).trans_eq bound
  have usable := publishedEntry_usable encoded resolver document now exact begun valid age
  have settled :=
    run_resolve_fetched (built.pinnedFor pins.member request.statusPurpose) stale free answered
  refine ⟨_, publishedEntry request list document now, settled, ?_, ?_⟩
  · exact congrArg (ResolveStage.settled (some pinned)) (assertUsable_eq_ok.mpr ⟨usable, rfl⟩)
  · refine ⟨_, (encoded.decodeStatusList_eq_ok roundTrips).mpr ⟨fits, rfl⟩, ?_⟩
    intro index inside
    have counted : request.entries.getD minimumStatusListEntries = entries := encoded.counted
    rw [counted] at inside
    exact
      marks.statusAt (addressable_of_fits fits) encoded.sized request.statusPurpose
        (by exact_mod_cast inside)

/-- A publisher can be pinned. -/
theorem exists_pinsPublisher
    (published : Published libraries request list input signature document)
    (signs : SignsFor libraries.signatures request.signingKey publicKeyRaw)
    : ∃ resolver pinned, PinsPublisher libraries request publicKeyRaw resolver pinned := by
  obtain ⟨url, reachable⟩ := published.reachable
  let pinned : PinnedStatusListIssuer :=
    {
      issuerId := []
      url := request.url
      publicKeyRaw
      documentIssuer := request.issuer
      verificationMethod := some request.verificationMethod
    }
  have secure (what : JsString) : assertHttpsUrl libraries request.url what = .ok url :=
    assertHttpsUrl_eq_ok.mpr (assertHttpsUrl_eq_ok.mp reachable)
  have single : pinIssuers libraries [] [pinned] = .ok [pinned] := by
    refine bind_eq_ok.mpr ⟨url, rethrowing_eq_ok.mpr (secure _), ?_⟩
    refine failIf_bind_eq_ok.mpr ⟨not_not.mpr signs.length, ?_⟩
    exact failIf_bind_eq_ok.mpr ⟨by simp, rfl⟩
  refine ⟨defaultResolver [pinned] none, pinned, ?_⟩
  exact {
    built := ⟨[pinned], none, buildResolver_defaultLimits (by simp) single none⟩
    member := List.mem_singleton_self pinned
    url := rfl
    issuer := rfl
    method := rfl
    key := rfl
  }

/-- Accepted once, at the start of its window, a document is resolvable. -/
theorem Published.resolvable
    (published : Published libraries request list input signature document)
    (encoded : Encoded libraries.platform request.encoding list entries statusSize bits)
    (roundTrips : libraries.platform.RoundTrips)
    (signs : SignsFor libraries.signatures request.signingKey publicKeyRaw)
    (parses : libraries.parseJson (servedBody document) = some document)
    (accepted : AcceptedThroughout libraries request document publicKeyRaw)
    : Resolvable libraries.platform request := by
  obtain ⟨resolver, pinned, pins⟩ := exists_pinsPublisher published signs
  obtain ⟨issuers, defaultIssuerId, build⟩ := pins.built
  obtain ⟨built, -, -, maxBytes⟩ := buildResolver_eq_ok build
  have well := built.pinned pinned pins.member
  let now : ℚ := request.validFromSeconds
  have valid : now < request.validUntil := Int.cast_lt.mpr published.window
  have fresh : now - request.validFromSeconds ≤ defaultStatusListMaxAgeSeconds := by
    rw [sub_self]
    exact Nat.cast_nonneg _
  obtain ⟨call, entry, settled, outcome, -⟩ :=
    accepted resolver pinned now ResolverState.fresh 0 pins le_rfl valid fresh
      (fun _ cached => by cases cached) rfl
  obtain ⟨url, answered⟩ :=
    fetchAndVerify_response resolver now well
      (show (servedResponse document).status = 200 from rfl)
  have run :=
    run_resolve_fetched (built.pinnedFor pins.member request.statusPurpose)
      (show NoLiveCopy resolver ResolverState.fresh pinned.url now from
        fun _ cached => by cases cached)
      (show ResolverState.fresh.calls 0 = none from rfl) answered
  obtain rfl := Option.some.inj (run.symm.trans settled)
  obtain ⟨-, finished⟩ := ResolveStage.settled.inj outcome
  obtain ⟨fetched, verified, -⟩ := bind_eq_ok.mp finished
  obtain ⟨short, fits, dated, -, -⟩ :=
    (published.fetched_iff encoded roundTrips parses).mp (verifyResponse_eq_ok.mp verified)
  obtain ⟨der, keyed, written⟩ := published.signed
  obtain ⟨signed, -⟩ := signs.verifies der input signature keyed written
  have limit : resolver.maxBytes = maxStatusListBytes := maxBytes
  rw [limit, published.servedBody_length encoded signed dated] at short
  refine { dated, fits := (fits_iff encoded).mpr fits, short := ?_ }
  intro otherEntries otherSize otherBits counted requested marks
  obtain rfl : otherEntries = entries := by
    exact_mod_cast counted.symm.trans (show request.entries.getD _ = entries from encoded.counted)
  obtain rfl : otherSize = statusSize := by
    exact_mod_cast
      requested.symm.trans (show request.statusSize.getD 1 = statusSize from encoded.requested)
  obtain rfl :=
    marks.unique (encoded.marks (addressable_of_fits fits)) encoded.sized.1
  exact_mod_cast short

end

/-- Every successful publication is accepted throughout its window and reads back exactly if
its years have four digits and its bits and its document fit the limits.
-/
theorem publish_then_resolve_iff {libraries : StatusLibraries}
    {request : PublishStatusListRequest} {document : Json.Value} {publicKeyRaw : Bytes}
    (published : publishStatusList libraries request = .ok document)
    (roundTrips : libraries.platform.RoundTrips)
    (signs : SignsFor libraries.signatures request.signingKey publicKeyRaw)
    (parses : libraries.parseJson (servedBody document) = some document)
    : AcceptedThroughout libraries request document publicKeyRaw
      ↔ Resolvable libraries.platform request := by
  obtain ⟨list, input, signature, published⟩ := publishStatusList_eq_ok published
  obtain ⟨entries, statusSize, bits, encoded⟩ := encodeStatusList_eq_ok published.encoded
  exact ⟨published.resolvable encoded roundTrips signs parses,
    published.accepted encoded roundTrips signs parses⟩

-----------------------------------------------------------------------------------------
-- An issuer small enough to run
-----------------------------------------------------------------------------------------

def sampleSha256 (message : Bytes) : Bytes := beBytes 32 (beNat message)

/-- The raw key is the seed, and a signature is the seed and the digest of the message. -/
def sampleSignatures : Signatures where
  sign privateKey message :=
    some (privateKey.drop pkcs8Prologue.length ++ sampleSha256 message)
  verify publicKey message signature :=
    some (signature == publicKey.drop spkiPrologue.length ++ sampleSha256 message)

def samplePlatform : Platform where
  gzip bits := 0x1f :: 0x8b :: bits
  gunzip
    | 0x1f :: 0x8b :: bits => some bits
    | _ => none
  maxBufferBytes := 2 ^ 32

def sampleParseUrl (raw : JsString) (_base : Option JsString) : Option Url :=
  if (js "https://").isPrefixOf raw then
    some { protocol := js "https:", username := [], password := [], href := raw }
  else
    none

/-- The runtime, with the texts that its parser knows. -/
def sampleLibraries (parseJson : Bytes → Option Json.Value) : StatusLibraries where
  platform := samplePlatform
  sha256 := sampleSha256
  signatures := sampleSignatures
  parseUrl := sampleParseUrl
  parseJson
  fractionText _ := []

/-- A parser that knows the text of one document. -/
def parsesOnly (document : Json.Value) (body : Bytes) : Option Json.Value :=
  if body = servedBody document then some document else none

theorem parsesOnly_servedBody (document : Json.Value)
    : parsesOnly document (servedBody document) = some document :=
  if_pos rfl

def sampleKey (octet : UInt8) : SigningKey :=
  { seed := some (List.replicate 32 octet), pkcs8Der := none }

def samplePublicKey (octet : UInt8) : Bytes := List.replicate 32 octet

theorem samplePlatform_roundTrips : samplePlatform.RoundTrips := fun _ => rfl

theorem sampleSignsFor (octet : UInt8)
    : SignsFor sampleSignatures (sampleKey octet) (samplePublicKey octet) where
  length := List.length_replicate
  verifies := by
    intro der message signature keyed signed
    cases keyed
    cases signed
    constructor
    · simp [sampleSha256, pkcs8Prologue]
    · simp [sampleSignatures, samplePublicKey, pkcs8Prologue, spkiPrologue]

/-- The lists of the example issuer. -/
def sampleRequest (url : JsString) (octet : UInt8) (revoked : List Number)
    (entries : Option Number)
    : PublishStatusListRequest where
  url
  issuer := js "issuer"
  verificationMethod := js "key-1"
  statusPurpose := js "revocation"
  revoked
  entries
  statusSize := none
  validFromSeconds := 1750000000
  validUntilSeconds := none
  signingKey := sampleKey octet

/-- The example issuer under one of its keys, pinned to a URL. -/
def samplePin (issuerId url : JsString) (octet : UInt8) : PinnedStatusListIssuer where
  issuerId
  url
  publicKeyRaw := samplePublicKey octet
  documentIssuer := js "issuer"
  verificationMethod := none

theorem assertHttpsUrl_sample (parseJson : Bytes → Option Json.Value) {url : JsString}
    (secure : (js "https://").isPrefixOf url = true) (what : JsString)
    : assertHttpsUrl (sampleLibraries parseJson) url what
      = .ok { protocol := js "https:", username := [], password := [], href := url } := by
  have filled : url ≠ [] := by
    rintro rfl
    exact absurd secure (by decide)
  exact assertHttpsUrl_eq_ok.mpr ⟨filled, if_pos secure, rfl, rfl, rfl⟩

theorem samplePin_well (parseJson : Bytes → Option Json.Value) (issuerId : JsString)
    {url : JsString} (secure : (js "https://").isPrefixOf url = true) (octet : UInt8)
    : PinnedWell (sampleLibraries parseJson) (samplePin issuerId url octet) where
  secure := ⟨_, assertHttpsUrl_sample parseJson secure⟩
  key := List.length_replicate

/-- The example issuer can publish every list of whole octets that the platform can hold. -/
theorem samplePublishable {url : JsString} (octet : UInt8) (revoked : List Number)
    (requested : Option Number) (entries : Nat) (parseJson : Bytes → Option Json.Value)
    (secure : (js "https://").isPrefixOf url = true)
    (counted : requested.getD minimumStatusListEntries = entries)
    (floor : minimumStatusListEntries ≤ entries) (whole : entries % 8 = 0)
    (small : entries ≤ 2 ^ 31)
    (inside : ∀ index ∈ revoked, 0 ≤ index ∧ index < entries)
    : Publishable (sampleLibraries parseJson) (sampleRequest url octet revoked requested)
        entries where
  reachable := ⟨_, assertHttpsUrl_sample parseJson secure _⟩
  issuer := by
    change js "issuer" ≠ []
    decide
  labelled := by
    change js "key-1" ≠ []
    decide
  natural := by
    change (0 : Int) ≤ 1750000000
    decide
  window := by
    change (1750000000 : Int) < 1750000000 + defaultStatusListValiditySeconds
    decide
  last := by
    change (1750000000 : Int) + defaultStatusListValiditySeconds ≤ lastSecond
    decide
  known := by
    change js "revocation" ∈ statusPurposes
    decide
  single := rfl
  counted := counted
  floor := floor
  whole := whole
  buffer := by
    have room : samplePlatform.maxBufferBytes = 2 ^ 32 := rfl
    simp only [sampleLibraries, room]
    omega
  small := small
  inside := inside
  signs := ⟨_, rfl, fun message => ⟨_, rfl⟩⟩

/-- A list of the default size is published, whatever the parser knows. -/
theorem sample_publishes {url : JsString} (secure : (js "https://").isPrefixOf url = true)
    (octet : UInt8) (revoked : List Number)
    (inside : ∀ index ∈ revoked, 0 ≤ index ∧ index < minimumStatusListEntries)
    : ∃ document,
        ∀ parseJson,
          publishStatusList (sampleLibraries parseJson) (sampleRequest url octet revoked none)
          = .ok document := by
  obtain ⟨document, published⟩ :=
    (samplePublishable octet revoked none minimumStatusListEntries (fun _ => none) secure rfl
      le_rfl rfl (by decide) inside).publishStatusList_succeeds
  exact ⟨document, fun _ => published⟩

/-- A published list of the example issuer. -/
theorem publish_then_resolve_iff_sample
    : ∃ document,
        publishStatusList (sampleLibraries (parsesOnly document))
            (sampleRequest (js "https://issuer.example/status") 1 [5] none)
          = .ok document
        ∧ (AcceptedThroughout (sampleLibraries (parsesOnly document))
            (sampleRequest (js "https://issuer.example/status") 1 [5] none) document
            (samplePublicKey 1)
          ↔ Resolvable samplePlatform
            (sampleRequest (js "https://issuer.example/status") 1 [5] none)) := by
  obtain ⟨document, published⟩ :=
    sample_publishes
      (show (js "https://").isPrefixOf (js "https://issuer.example/status") = true from rfl) 1 [5]
      (by decide)
  refine ⟨document, published _, ?_⟩
  exact
    @publish_then_resolve_iff (sampleLibraries (parsesOnly document)) _ _ _ (published _)
      samplePlatform_roundTrips (sampleSignsFor 1) (parsesOnly_servedBody document)

/-- Not every published list is accepted: one octet of entries past the ceiling of the decoder
is published and never resolves.
-/
theorem large_list_never_resolves
    : ¬ ∀ libraries request document publicKeyRaw,
        publishStatusList libraries request = .ok document
        → libraries.platform.RoundTrips
        → SignsFor libraries.signatures request.signingKey publicKeyRaw
        → libraries.parseJson (servedBody document) = some document
        → AcceptedThroughout libraries request document publicKeyRaw := by
  intro always
  have publishable :=
    samplePublishable 1 [] (some 134217736) 134217736 (fun _ => none)
      (show (js "https://").isPrefixOf (js "https://issuer.example/status") = true from rfl)
      rfl (by decide) rfl (by decide) (by decide)
  obtain ⟨document, published⟩ := publishable.publishStatusList_succeeds
  have accepted :=
    always (sampleLibraries (parsesOnly document)) _ document (samplePublicKey 1) published
      samplePlatform_roundTrips (sampleSignsFor 1) (parsesOnly_servedBody document)
  obtain ⟨list, input, signature, shape⟩ := publishStatusList_eq_ok published
  obtain ⟨entries, statusSize, bits, encoded⟩ := encodeStatusList_eq_ok shape.encoded
  have served
      : Published (sampleLibraries (parsesOnly document))
          (sampleRequest (js "https://issuer.example/status") 1 [] (some 134217736)) list input
          signature document :=
    { shape with }
  have resolvable :=
    served.resolvable encoded samplePlatform_roundTrips (sampleSignsFor 1)
      (parsesOnly_servedBody document) accepted
  have fits : ((134217736 : Int) * 1 ≤ 8 * maxStatusListBytes) := resolvable.fits
  exact absurd fits (by decide)

end StellarOnramp.Gateway
