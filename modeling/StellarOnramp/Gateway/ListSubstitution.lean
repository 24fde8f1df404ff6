import StellarOnramp.Gateway.ResolverRuns

/-! Lists of one issuer in place of each other: the network replays signed documents, and a
document answers for the URL it was published for only where the signer has no other URL.
-/

namespace StellarOnramp.Gateway

open Attempts JsText Octets
open StellarOnramp.Identity
open Transitions

/-- The documents that were signed, each with its request. -/
structure SignedDocuments (libraries : StatusLibraries) where
  Signed : PublishStatusListRequest → Json.Value → Prop
  published
    : ∀ request document,
        Signed request document → publishStatusList libraries request = .ok document
  parses
    : ∀ request document,
        Signed request document → libraries.parseJson (servedBody document) = some document

/-- A key verifies signatures of a signing key. -/
def VerifiesFor (signatures : Signatures) (publicKeyRaw : Bytes) (key : SigningKey) : Prop :=
  ∃ der message signature,
    key.privateKey = .ok der
    ∧ signatures.sign der message = some signature
    ∧ signatures.verify (spkiPrologue ++ publicKeyRaw) message signature = some true

/-- A request in the name of a pinned issuer, for a purpose. -/
structure InNameOf (signatures : Signatures) (request : PublishStatusListRequest)
    (pinned : PinnedStatusListIssuer) (statusPurpose : JsString)
    : Prop where
  signer : NamesSigner request pinned.signer
  key : VerifiesFor signatures pinned.publicKeyRaw request.signingKey
  purpose : request.statusPurpose = statusPurpose

section

variable {libraries : StatusLibraries} (resolver : HardenedStatusListResolver)
  (signed : SignedDocuments libraries) (inputs : List ResolverEvent)

/-- The network answers with signed documents. It may redirect, fail and answer anything else
than success.
-/
def SignedDocuments.Replayed (response : StatusListHttpResponse) : Prop :=
  response.status = 200
  → ∃ request document, signed.Signed request document ∧ response.body = servedBody document

/-- The network forges nothing in the run. -/
def NetworkReplays : Prop :=
  ∀ id outcomes response,
    .fetched id outcomes ∈ inputs
    → .response response ∈ outcomes
    → signed.Replayed response

/-- Every list of the run is the subject of a document that was published for the URL of the
issuer that was asked about.
-/
def NoSubstitution : Prop :=
  ∀ id call settledFor entry,
    ((resolverMachine libraries resolver).run ResolverState.fresh inputs).calls id = some call
    → call.stage = .settled settledFor (.ok entry)
    → ∃ pinned request document,
        pinnedFor resolver call.request = .ok pinned
        ∧ signed.Signed request document
        ∧ request.url = pinned.url
        ∧ entry.list = toBitstringStatusList document

/-- Whatever was signed in the name of an issuer, for a purpose that the run asks of it, was
published for its pinned URL.
-/
def OneUrlForEachSigner : Prop :=
  ∀ pinned statusPurpose request document,
    Asked resolver inputs pinned statusPurpose
    → signed.Signed request document
    → InNameOf libraries.signatures request pinned statusPurpose
    → request.url = pinned.url

end

/-- A signed document that was fetched is one in the name of the issuer it was fetched for. -/
theorem fetched_inNameOf {libraries : StatusLibraries} {resolver : HardenedStatusListResolver}
    {signed : SignedDocuments libraries} {pinned : PinnedStatusListIssuer} {now : ℚ}
    {response : StatusListHttpResponse} {entry : CacheEntry}
    (replayed : signed.Replayed response)
    (fetched : Fetched libraries resolver pinned now response entry)
    : ∃ request,
        signed.Signed request entry.document
        ∧ InNameOf libraries.signatures request pinned entry.list.statusPurpose := by
  obtain ⟨request, document, known, body⟩ := replayed fetched.status
  have parsed := fetched.parsed
  rw [body, signed.parses request document known] at parsed
  obtain rfl : document = entry.document := Option.some.inj parsed
  refine ⟨request, known, ?_⟩
  obtain ⟨list, input, signature, published⟩ :=
    publishStatusList_eq_ok (signed.published request entry.document known)
  obtain ⟨entries, statusSize, bits, encoded⟩ := encodeStatusList_eq_ok published.encoded
  obtain ⟨names, -, -, checked⟩ := published.verify_eq_ok.mp fetched.verified
  obtain ⟨der, keyed, written⟩ := published.signed
  refine { signer := names, key := ⟨der, input, signature, keyed, written, checked⟩, purpose := ?_ }
  rw [fetched.list, published.document, toBitstringStatusList_signedDocument, encoded.list,
    wireList_statusPurpose]
  rfl

/-- Where every signer has one URL, replays substitute no list, in every run. -/
theorem no_substitution_where_signers_have_one_url {libraries : StatusLibraries}
    {resolver : HardenedStatusListResolver} {signed : SignedDocuments libraries}
    {inputs : List ResolverEvent} (replays : NetworkReplays signed inputs)
    (single : OneUrlForEachSigner resolver signed inputs)
    : NoSubstitution resolver signed inputs := by
  intro id call settledFor entry found settled
  have sourced := sourced_run libraries (surroundingsOf_allows resolver replays)
  have answer := sourced.calls id call found
  rw [settled] at answer
  obtain ⟨pinned, known, -, -, source, response, now, shared, asked, replayed, fetched⟩ := answer
  obtain ⟨request, member, named⟩ := fetched_inNameOf replayed fetched
  refine ⟨pinned, request, entry.document, known, member, ?_, fetched.list⟩
  exact (single source _ request entry.document asked member named).trans shared

/-- The only response of asking once and being served. -/
theorem served_response {request : PublishStatusListRequest} {document : Json.Value}
    {pinned : PinnedStatusListIssuer} {id other : Nat} {now : ℚ} {outcomes : List HttpOutcome}
    {response : StatusListHttpResponse}
    (served : .fetched other outcomes ∈ askAndServe request document pinned id now)
    (member : .response response ∈ outcomes)
    : response = servedResponse document := by
  simp only [askAndServe, List.mem_cons, ResolverEvent.fetched.injEq, reduceCtorEq,
    List.not_mem_nil, or_false, false_or] at served
  obtain ⟨-, rfl⟩ := served
  exact HttpOutcome.response.inj (List.mem_singleton.mp member)

/-- The network replays the only document there is. -/
theorem no_substitution_where_signers_have_one_url_single
    : ∃ (document : Json.Value)
        (signed : SignedDocuments (sampleLibraries (parsesOnly document))),
        signed.Signed (sampleRequest (js "https://issuer.example/status") 1 [5] none) document
        ∧ NoSubstitution
            (defaultResolver [samplePin (js "first") (js "https://issuer.example/status") 1]
              none)
            signed
            (askAndServe (sampleRequest (js "https://issuer.example/status") 1 [5] none) document
              (samplePin (js "first") (js "https://issuer.example/status") 1) 0 1750000000) := by
  have secure : (js "https://").isPrefixOf (js "https://issuer.example/status") = true := rfl
  obtain ⟨document, published⟩ :=
    sample_publishes secure 1 [5] (by decide)
  let signed : SignedDocuments (sampleLibraries (parsesOnly document)) :=
    {
      Signed := fun request other =>
        request = sampleRequest (js "https://issuer.example/status") 1 [5] none
        ∧ other = document
      published := by
        rintro _ _ ⟨rfl, rfl⟩
        exact published _
      parses := by
        rintro _ _ ⟨-, rfl⟩
        exact parsesOnly_servedBody _
    }
  refine ⟨document, signed, ⟨rfl, rfl⟩, no_substitution_where_signers_have_one_url ?_ ?_⟩
  · intro id outcomes response served member accepted
    obtain rfl := served_response served member
    exact ⟨_, document, ⟨rfl, rfl⟩, rfl⟩
  · rintro pinned statusPurpose request other ⟨id, asked, now, member, found, -⟩ ⟨rfl, rfl⟩ -
    simp only [askAndServe, List.mem_cons, ResolverEvent.resolve.injEq, reduceCtorEq,
      List.not_mem_nil, or_false] at member
    obtain ⟨rfl, rfl, rfl⟩ := member
    cases found
    rfl

-----------------------------------------------------------------------------------------
-- Two lists of one issuer
-----------------------------------------------------------------------------------------

/-- A parser that knows the texts of two documents. -/
def parsesBoth (first second : Json.Value) (body : Bytes) : Option Json.Value :=
  if body = servedBody second then some second else parsesOnly first body

theorem parsesBoth_servedBody {first second : Json.Value}
    (apart : (servedBody first).length ≠ (servedBody second).length)
    : parsesBoth first second (servedBody first) = some first
      ∧ parsesBoth first second (servedBody second) = some second := by
  have different : servedBody first ≠ servedBody second := fun same => apart (by rw [same])
  exact ⟨(if_neg different).trans (parsesOnly_servedBody first), if_pos rfl⟩

/-- Example requests that publish one list revoke the same entries. -/
theorem sample_revoked_iff {parseJson : Bytes → Option Json.Value} {url otherUrl : JsString}
    {octet otherOctet : UInt8} {revoked others : List Number} {document other : Json.Value}
    {list : BitstringStatusList} {input signature otherInput otherSignature : Bytes}
    (published
      : Published (sampleLibraries parseJson) (sampleRequest url octet revoked none) list input
          signature document)
    (again
      : Published (sampleLibraries parseJson) (sampleRequest otherUrl otherOctet others none) list
          otherInput otherSignature other)
    (index : Nat) (inside : index < 131072)
    : (index : Number) ∈ revoked ↔ (index : Number) ∈ others := by
  obtain ⟨bits, encoded, length, -⟩ := sample_encoded published
  obtain ⟨otherBits, repeated, -, -⟩ := sample_encoded again
  exact
    encoded.set_iff repeated samplePlatform_roundTrips (length.trans_le (by decide)) rfl inside

/-- An issuer revoked an entry of one list. The network serves its other list in place of that
one, and the resolver takes it.
-/
theorem other_list_substituted
    : ¬ ∀ libraries config resolver (signed : SignedDocuments libraries) inputs,
        buildResolver libraries config = .ok resolver
        → NetworkReplays signed inputs
        → NoSubstitution resolver signed inputs := by
  intro always
  let asked := sampleRequest (js "https://issuer.example/status/1") 1 [5] none
  let swapped := sampleRequest (js "https://issuer.example/status/22") 1 [] none
  have askedSecure : (js "https://").isPrefixOf (js "https://issuer.example/status/1") = true := rfl
  have swappedSecure
      : (js "https://").isPrefixOf (js "https://issuer.example/status/22") = true := rfl
  obtain ⟨first, firstPublished⟩ :=
    sample_publishes askedSecure 1 [5] (by decide)
  obtain ⟨second, secondPublished⟩ :=
    sample_publishes swappedSecure 1 [] (by decide)
  let libraries := sampleLibraries (parsesBoth first second)
  have firstPublished : publishStatusList libraries asked = .ok first := firstPublished _
  have secondPublished : publishStatusList libraries swapped = .ok second := secondPublished _
  obtain ⟨firstList, firstInput, firstSignature, firstShape⟩ :=
    publishStatusList_eq_ok firstPublished
  obtain ⟨secondList, secondInput, secondSignature, secondShape⟩ :=
    publishStatusList_eq_ok secondPublished
  have apart : (servedBody first).length ≠ (servedBody second).length := by
    rw [sample_servedBody_length firstShape, sample_servedBody_length secondShape]
    decide +kernel
  obtain ⟨firstParses, secondParses⟩ := parsesBoth_servedBody apart
  let signed : SignedDocuments libraries :=
    {
      Signed := fun request document =>
        (request = asked ∧ document = first) ∨ (request = swapped ∧ document = second)
      published := by
        rintro _ _ (⟨rfl, rfl⟩ | ⟨rfl, rfl⟩)
        · exact firstPublished
        · exact secondPublished
      parses := by
        rintro _ _ (⟨-, rfl⟩ | ⟨-, rfl⟩)
        · exact firstParses
        · exact secondParses
    }
  let pinned := samplePin (js "first") (js "https://issuer.example/status/1") 1
  let resolver := defaultResolver [pinned] none
  let now : ℚ := 1750000000
  have well : PinnedWell libraries pinned := samplePin_well _ _ askedSecure 1
  have build : buildResolver libraries (defaultLimits [pinned] none) = .ok resolver :=
    buildResolver_sample (parsesBoth first second) (by simp) (by simpa using well) (by simp)
  have answered :=
    sample_fetchAndVerify secondShape secondParses (by decide +kernel)
      (show resolver.maxBytes = maxStatusListBytes from rfl) well
      { issuer := rfl, method := fun label known => by cases known } rfl now
  have usable := sample_usable secondShape resolver (Nat.cast_nonneg _) now
  have settled :=
    run_resolve_fetched
      ((buildResolver_eq_ok build).1.pinnedFor (List.mem_singleton_self pinned) (js "revocation"))
      (show NoLiveCopy resolver ResolverState.fresh pinned.url now from
        fun _ cached => by cases cached)
      (show ResolverState.fresh.calls 0 = none from rfl) answered
  have replays : NetworkReplays signed (askAndServe asked second pinned 0 now) := by
    intro id outcomes response served member accepted
    obtain rfl := served_response served member
    exact ⟨swapped, second, Or.inr ⟨rfl, rfl⟩, rfl⟩
  obtain ⟨other, request, document, found, member, atUrl, list⟩ :=
    always libraries _ resolver signed _ build replays 0 _ _ _ settled
      (congrArg (ResolveStage.settled (some pinned)) (assertUsable_eq_ok.mpr ⟨usable, rfl⟩))
  obtain rfl : pinned = other := Except.ok.inj found
  rcases member with ⟨rfl, rfl⟩ | ⟨rfl, rfl⟩
  · -- The list that revokes the entry is not the one that was served.
    rw [firstShape.document, toBitstringStatusList_signedDocument] at list
    obtain rfl : secondList = firstList := list
    have revoked := (sample_revoked_iff firstShape secondShape 5 (by decide)).mp
    exact absurd (revoked (List.mem_singleton_self 5)) List.not_mem_nil
  · exact absurd atUrl (by decide)

end StellarOnramp.Gateway
