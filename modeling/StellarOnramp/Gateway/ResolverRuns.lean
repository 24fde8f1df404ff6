import StellarOnramp.Gateway.PublishResolve

/-! Runs of a resolver: where its answers come from. Copies are kept by URL, so an answer was
verified for some issuer of the URL, and only issuers that agree may share one.
-/

namespace StellarOnramp.Gateway

open Attempts JsText Octets
open StellarOnramp.Identity
open Transitions
open Doubles (rounded)

-----------------------------------------------------------------------------------------
-- One fetch
-----------------------------------------------------------------------------------------

/-- What redirects lead to is one of the responses, by induction on the outcomes. -/
theorem followRedirects_mem {libraries : StatusLibraries}
    {resolver : HardenedStatusListResolver} {url source : JsString} {hops : Nat}
    {outcomes : List HttpOutcome} {response : StatusListHttpResponse}
    (followed
      : followRedirects libraries resolver url hops outcomes = some (.ok (response, source)))
    : .response response ∈ outcomes := by
  induction outcomes generalizing url hops with
  | nil => cases followed
  | cons outcome rest ih =>
      cases outcome with
      | refused reason message => cases followed
      | aborted => cases followed
      | failed => cases followed
      | response other =>
          rw [followRedirects] at followed
          split at followed
          case isTrue =>
            split at followed
            case isTrue => cases followed
            case isFalse =>
              split at followed
              case h_1 => cases followed
              case h_2 next _ => exact List.mem_cons_of_mem _ (ih followed)
          case isFalse =>
            cases followed
            exact List.mem_cons_self

/-- A fetched entry was read from one of the responses. -/
theorem fetchAndVerify_eq_ok {libraries : StatusLibraries}
    {resolver : HardenedStatusListResolver} {pinned : PinnedStatusListIssuer} {now : ℚ}
    {outcomes : List HttpOutcome} {entry : CacheEntry}
    (fetched : fetchAndVerify libraries resolver pinned now outcomes = some (.ok entry))
    : ∃ response,
        .response response ∈ outcomes ∧ Fetched libraries resolver pinned now response entry := by
  unfold fetchAndVerify at fetched
  split at fetched
  case h_1 => cases fetched
  case h_2 url _ =>
    obtain ⟨reached, followed, verified⟩ := Option.map_eq_some_iff.mp fetched
    obtain ⟨⟨response, source⟩, rfl, verified⟩ := bind_eq_ok.mp verified
    exact ⟨response, followRedirects_mem followed, verifyResponse_eq_ok.mp verified⟩

-----------------------------------------------------------------------------------------
-- Where answers come from
-----------------------------------------------------------------------------------------

/-- Which issuers are asked about, for which purpose, and what the network may answer. -/
structure Surroundings where
  Asked : PinnedStatusListIssuer → JsString → Prop
  Serves : StatusListHttpResponse → Prop

/-- An event of the surroundings. -/
def Surroundings.Allows (surroundings : Surroundings) (resolver : HardenedStatusListResolver)
    : ResolverEvent → Prop
  | .resolve _ request _ =>
      ∀ pinned,
        pinnedFor resolver request = .ok pinned
        → surroundings.Asked pinned request.statusPurpose
  | .fetched _ outcomes =>
      ∀ response, .response response ∈ outcomes → surroundings.Serves response
  | .invalidate => True

/-- An entry was fetched under the URL, for an issuer that was asked about. -/
def FetchedUnder (surroundings : Surroundings) (libraries : StatusLibraries)
    (resolver : HardenedStatusListResolver) (url : JsString) (entry : CacheEntry)
    : Prop :=
  ∃ source response now,
    source.url = url
    ∧ surroundings.Asked source entry.list.statusPurpose
    ∧ surroundings.Serves response
    ∧ Fetched libraries resolver source now response entry

/-- The stage of a call for a request. -/
def StageSourced (surroundings : Surroundings) (libraries : StatusLibraries)
    (resolver : HardenedStatusListResolver) (request : ResolveRequest)
    : ResolveStage → Prop
  | .fetching pinned _ =>
      pinnedFor resolver request = .ok pinned
      ∧ surroundings.Asked pinned request.statusPurpose
  | .settled _ (.error _) => True
  | .settled _ (.ok entry) =>
      ∃ pinned,
        pinnedFor resolver request = .ok pinned
        ∧ surroundings.Asked pinned request.statusPurpose
        ∧ entry.list.statusPurpose = request.statusPurpose
        ∧ FetchedUnder surroundings libraries resolver pinned.url entry

/-- Every copy and every answer was fetched under its URL. -/
structure Sourced (surroundings : Surroundings) (libraries : StatusLibraries)
    (resolver : HardenedStatusListResolver) (state : ResolverState)
    : Prop where
  copies
    : ∀ url entry,
        state.cache url = some entry
        → FetchedUnder surroundings libraries resolver url entry
  calls
    : ∀ id call,
        state.calls id = some call
        → StageSourced surroundings libraries resolver call.request call.stage

section

variable {surroundings : Surroundings} {libraries : StatusLibraries}
  {resolver : HardenedStatusListResolver}

theorem sourced_fresh : Sourced surroundings libraries resolver ResolverState.fresh where
  copies _ _ found := by cases found
  calls _ _ found := by cases found

theorem startResolve_sourced {state : ResolverState} {request : ResolveRequest} {now : ℚ}
    (sourced : Sourced surroundings libraries resolver state)
    (asked
      : ∀ pinned,
          pinnedFor resolver request = .ok pinned
          → surroundings.Asked pinned request.statusPurpose)
    : StageSourced surroundings libraries resolver request
        (startResolve libraries resolver state.cache request now) := by
  unfold startResolve
  split
  case h_1 => trivial
  case h_2 pinned found =>
    split
    case h_1 cached copy =>
      split
      case isTrue =>
        cases outcome : assertUsable libraries resolver cached now pinned request.statusPurpose with
        | error => trivial
        | ok entry =>
            obtain ⟨usable, rfl⟩ := assertUsable_eq_ok.mp outcome
            exact ⟨pinned, found, asked pinned found, usable.purpose, sourced.copies _ _ copy⟩
      case isFalse => exact ⟨found, asked pinned found⟩
    case h_2 => exact ⟨found, asked pinned found⟩

/-- A call that ends with its fetch. -/
theorem finish_sourced {request : ResolveRequest} {pinned : PinnedStatusListIssuer}
    {now time : ℚ} {outcomes : List HttpOutcome} {fetched : Resolution CacheEntry}
    {entry : CacheEntry}
    (waiting : StageSourced surroundings libraries resolver request (.fetching pinned time))
    (honest : ∀ response, .response response ∈ outcomes → surroundings.Serves response)
    (answered : fetchAndVerify libraries resolver pinned now outcomes = some fetched)
    (accepted
      : (fetched >>= fun entry =>
            assertUsable libraries resolver entry now pinned request.statusPurpose)
        = .ok entry)
    : entry.list.statusPurpose = request.statusPurpose
      ∧ FetchedUnder surroundings libraries resolver pinned.url entry := by
  obtain ⟨found, rfl, usable⟩ := bind_eq_ok.mp accepted
  obtain ⟨usable, rfl⟩ := assertUsable_eq_ok.mp usable
  obtain ⟨response, member, read⟩ := fetchAndVerify_eq_ok answered
  refine ⟨usable.purpose, pinned, response, now, rfl, ?_, honest response member, read⟩
  rw [usable.purpose]
  exact waiting.2

/-- One event of the surroundings keeps every copy and answer sourced. -/
theorem Sourced.step {state after : ResolverState} {event : ResolverEvent}
    (sourced : Sourced surroundings libraries resolver state)
    (allowed : surroundings.Allows resolver event)
    (stepped : (resolverMachine libraries resolver).step state event = some after)
    : Sourced surroundings libraries resolver after := by
  cases event with
  | invalidate =>
      cases stepped
      exact { copies := fun _ _ found => (by cases found), calls := sourced.calls }
  | resolve id request now =>
      simp only [resolverMachine] at stepped
      split at stepped
      case h_1 => cases stepped
      case h_2 =>
        cases stepped
        exact {
          copies := sourced.copies
          calls := forall_update sourced.calls (startResolve_sourced sourced allowed)
        }
  | fetched id outcomes =>
      simp only [resolverMachine] at stepped
      split at stepped
      case h_2 => cases stepped
      case h_1 request pinned now found =>
        obtain ⟨fetched, answered, same⟩ := Option.map_eq_some_iff.mp stepped
        have waiting := sourced.calls _ _ found
        subst same
        cases outcome
          : fetched >>= fun entry =>
              assertUsable libraries resolver entry now pinned request.statusPurpose with
        | error failure =>
            exact {
              copies := sourced.copies
              calls := forall_update sourced.calls trivial
            }
        | ok entry =>
            obtain ⟨purpose, under⟩ := finish_sourced waiting allowed answered outcome
            exact {
              copies := forall_update sourced.copies under
              calls :=
                forall_update sourced.calls ⟨pinned, waiting.1, waiting.2, purpose, under⟩
            }

/-- A run within the surroundings, by induction on its events. -/
theorem sourced_run (libraries : StatusLibraries) {inputs : List ResolverEvent}
    (allowed : ∀ event ∈ inputs, surroundings.Allows resolver event)
    : Sourced surroundings libraries resolver
        ((resolverMachine libraries resolver).run ResolverState.fresh inputs) := by
  refine Machine.run_of_trace (fun given event after member stepped sourced => ?_) sourced_fresh
  obtain ⟨before, later, rfl, -, -⟩ := Machine.mem_trace member
  exact sourced.step (allowed event (by simp)) stepped

end

-----------------------------------------------------------------------------------------
-- Authenticity for each issuer
-----------------------------------------------------------------------------------------

/-- The issuer is asked about in the run. -/
def Asked (resolver : HardenedStatusListResolver) (inputs : List ResolverEvent)
    (pinned : PinnedStatusListIssuer) (statusPurpose : JsString)
    : Prop :=
  ∃ id request now,
    .resolve id request now ∈ inputs
    ∧ pinnedFor resolver request = .ok pinned
    ∧ request.statusPurpose = statusPurpose

/-- The surroundings of a run, with the responses of the network. -/
def surroundingsOf (resolver : HardenedStatusListResolver) (inputs : List ResolverEvent)
    (Serves : StatusListHttpResponse → Prop)
    : Surroundings where
  Asked := Asked resolver inputs
  Serves := Serves

/-- The document was verified under the pins of the issuer, and the list is its subject. -/
structure Authentic (libraries : StatusLibraries) (pinned : PinnedStatusListIssuer)
    (entry : CacheEntry)
    : Prop where
  verified
    : verifyStatusListCredential libraries.signatures libraries.sha256 entry.document
        pinned.signer
      = .ok ()
  list : entry.list = toBitstringStatusList entry.document

/-- Every answer of a run is authentic for the issuer that was asked about. -/
def AnswersAuthentic (libraries : StatusLibraries) (resolver : HardenedStatusListResolver)
    (inputs : List ResolverEvent)
    : Prop :=
  ∀ id call settledFor entry,
    ((resolverMachine libraries resolver).run ResolverState.fresh inputs).calls id = some call
    → call.stage = .settled settledFor (.ok entry)
    → ∃ pinned,
        pinnedFor resolver call.request = .ok pinned ∧ Authentic libraries pinned entry

/-- Issuers that the run asks about and that share a URL pin the same signer. -/
def SharedUrlsAgree (resolver : HardenedStatusListResolver) (inputs : List ResolverEvent)
    : Prop :=
  ∀ first second firstPurpose secondPurpose,
    Asked resolver inputs first firstPurpose
    → Asked resolver inputs second secondPurpose
    → first.url = second.url
    → first.signer = second.signer

theorem surroundingsOf_allows (resolver : HardenedStatusListResolver)
    {inputs : List ResolverEvent} {Serves : StatusListHttpResponse → Prop}
    (serves
      : ∀ id outcomes response,
          .fetched id outcomes ∈ inputs → .response response ∈ outcomes → Serves response)
    : ∀ event ∈ inputs, (surroundingsOf resolver inputs Serves).Allows resolver event := by
  intro event member
  cases event with
  | resolve id request now => exact fun pinned found => ⟨id, request, now, member, found, rfl⟩
  | fetched id outcomes => exact fun response here => serves id outcomes response member here
  | invalidate => trivial

/-- Where issuers of one URL agree, every answer of every run is authentic. -/
theorem answers_authentic_where_urls_agree {libraries : StatusLibraries}
    {resolver : HardenedStatusListResolver} {inputs : List ResolverEvent}
    (agree : SharedUrlsAgree resolver inputs)
    : AnswersAuthentic libraries resolver inputs := by
  intro id call settledFor entry found settled
  have anything : ∀ id outcomes response,
      .fetched id outcomes ∈ inputs → .response response ∈ outcomes → True :=
    fun _ _ _ _ _ => trivial
  have sourced := sourced_run libraries (surroundingsOf_allows resolver anything)
  have answer := sourced.calls id call found
  rw [settled] at answer
  obtain ⟨pinned, known, asked, -, source, response, now, shared, sourceAsked, -, fetched⟩ := answer
  refine ⟨pinned, known, { verified := ?_, list := fetched.list }⟩
  rw [← agree source pinned _ _ sourceAsked asked shared]
  exact fetched.verified

/-- One issuer is asked about and served a document. -/
theorem answers_authentic_where_urls_agree_single
    : ∃ document,
        publishStatusList (sampleLibraries (parsesOnly document))
            (sampleRequest (js "https://issuer.example/status") 1 [5] none)
          = .ok document
        ∧ AnswersAuthentic (sampleLibraries (parsesOnly document))
            (defaultResolver [samplePin (js "first") (js "https://issuer.example/status") 1]
              none)
            (askAndServe (sampleRequest (js "https://issuer.example/status") 1 [5] none) document
              (samplePin (js "first") (js "https://issuer.example/status") 1) 0 1750000000) := by
  have secure : (js "https://").isPrefixOf (js "https://issuer.example/status") = true := rfl
  obtain ⟨document, published⟩ :=
    sample_publishes secure 1 [5] (by decide)
  refine ⟨document, published _, answers_authentic_where_urls_agree ?_⟩
  rintro first second _ _ ⟨_, _, _, firstIn, firstFound, -⟩ ⟨_, _, _, secondIn, secondFound, -⟩ -
  simp only [askAndServe, List.mem_cons, ResolverEvent.resolve.injEq, reduceCtorEq,
    List.not_mem_nil, or_false] at firstIn secondIn
  obtain ⟨rfl, rfl, rfl⟩ := firstIn
  obtain ⟨rfl, rfl, rfl⟩ := secondIn
  cases firstFound.symm.trans secondFound
  rfl

-----------------------------------------------------------------------------------------
-- Two issuers of one URL
-----------------------------------------------------------------------------------------

section

variable {parseJson : Bytes → Option Json.Value} {url : JsString} {octet : UInt8}
  {revoked : List Number} {document : Json.Value} {list : BitstringStatusList}
  {input signature : Bytes}

/-- The bits of an example list, and their size on the wire. -/
theorem sample_encoded
    (published
      : Published (sampleLibraries parseJson) (sampleRequest url octet revoked none) list input
          signature document)
    : ∃ bits,
        Encoded samplePlatform (sampleRequest url octet revoked none).encoding list 131072 1 bits
        ∧ bits.length = 16384
        ∧ (samplePlatform.gzip bits).length = 16386 := by
  obtain ⟨entries, statusSize, bits, encoded⟩ := encodeStatusList_eq_ok published.encoded
  have counted : ((131072 : Nat) : Number) = entries := encoded.counted
  have requested : ((1 : Nat) : Number) = statusSize := encoded.requested
  obtain rfl : 131072 = entries := by exact_mod_cast counted
  obtain rfl : 1 = statusSize := by exact_mod_cast requested
  have whole := encoded.length
  refine ⟨bits, encoded, by omega, ?_⟩
  change bits.length + 1 + 1 = 16386
  omega

/-- The default window ends well before the year 10000. -/
theorem sample_dated : (sampleRequest url octet revoked none).validUntil < firstLateSecond := by
  change (1750000000 + defaultStatusListValiditySeconds : Int) < firstLateSecond
  decide

theorem sample_servedBody_length
    (published
      : Published (sampleLibraries parseJson) (sampleRequest url octet revoked none) list input
          signature document)
    : (servedBody document).length
      = documentOctets (sampleRequest url octet revoked none) 1 16386 := by
  obtain ⟨bits, encoded, -, compressed⟩ := sample_encoded published
  obtain ⟨der, keyed, written⟩ := published.signed
  obtain ⟨signed, -⟩ := (sampleSignsFor octet).verifies der input signature keyed written
  have length := published.servedBody_length encoded signed sample_dated
  rwa [show (sampleLibraries parseJson).platform = samplePlatform from rfl, compressed] at length

/-- The example list is fetched for every pin of its key. -/
theorem sample_fetchAndVerify
    (published
      : Published (sampleLibraries parseJson) (sampleRequest url octet revoked none) list input
          signature document)
    (parses : parseJson (servedBody document) = some document)
    (short
      : documentOctets (sampleRequest url octet revoked none) 1 16386 ≤ maxStatusListBytes)
    {resolver : HardenedStatusListResolver} (limit : resolver.maxBytes = maxStatusListBytes)
    {pinned : PinnedStatusListIssuer} (well : PinnedWell (sampleLibraries parseJson) pinned)
    (names : NamesSigner (sampleRequest url octet revoked none) pinned.signer)
    (key : pinned.publicKeyRaw = samplePublicKey octet) (now : ℚ)
    : fetchAndVerify (sampleLibraries parseJson) resolver pinned now
        [.response (servedResponse document)]
      = some
          (.ok (publishedEntry (sampleRequest url octet revoked none) list document now)) := by
  obtain ⟨bits, encoded, length, compressed⟩ := sample_encoded published
  refine
    published.fetchAndVerify_served encoded samplePlatform_roundTrips (sampleSignsFor octet)
      parses well names key (length.trans_le (by decide)) sample_dated ?_ now
  rw [limit]
  change ((documentOctets _ 1 (samplePlatform.gzip bits).length : Nat) : Int) ≤ _
  rw [compressed]
  exact_mod_cast short

/-- The example list is fresh at the start of its window. -/
theorem sample_usable
    (published
      : Published (sampleLibraries parseJson) (sampleRequest url octet revoked none) list input
          signature document)
    (resolver : HardenedStatusListResolver) (positive : 0 ≤ resolver.maxAge) (fetchedAt : ℚ)
    : Usable resolver
        (publishedEntry (sampleRequest url octet revoked none) list document fetchedAt)
        1750000000 (js "revocation") := by
  obtain ⟨entries, statusSize, bits, encoded⟩ := encodeStatusList_eq_ok published.encoded
  have begun : ((1750000000 : Int) : ℚ) = 1750000000 := by norm_num
  have valid
      : ((1750000000 : Int) : ℚ) < ((1750000000 + defaultStatusListValiditySeconds : Int) : ℚ) :=
    Int.cast_lt.mpr (by decide)
  apply publishedEntry_usable encoded resolver document fetchedAt
    (show |(1750000000 : Int)| < 2 ^ 53 by decide) begun.le (begun ▸ valid)
  change rounded ((1750000000 : ℚ) - ((1750000000 : Int) : ℚ)) ≤ _
  rw [begun, sub_self, Doubles.rounded_zero]
  exact positive

end

/-- Two issuers with one URL, each with its own key. -/
def sharedPins : List PinnedStatusListIssuer :=
  [
    samplePin (js "first") (js "https://issuer.example/status") 1,
    samplePin (js "second") (js "https://issuer.example/status") 2
  ]

theorem buildResolver_sample (parseJson : Bytes → Option Json.Value)
    {issuers : List PinnedStatusListIssuer} (filled : issuers ≠ [])
    (well : ∀ pinned ∈ issuers, PinnedWell (sampleLibraries parseJson) pinned)
    (distinct : (issuers.map PinnedStatusListIssuer.issuerId).Nodup)
    : buildResolver (sampleLibraries parseJson) (defaultLimits issuers none)
      = .ok (defaultResolver issuers none) :=
  buildResolver_defaultLimits filled
    (pinIssuers_succeeds [] distinct well) none

/-- What is fetched for one issuer answers for every issuer of its URL while it is live. -/
theorem run_shared_url {libraries : StatusLibraries} {resolver : HardenedStatusListResolver}
    (built : Built libraries resolver) (cached : 0 < resolver.cacheTtl)
    {first second : PinnedStatusListIssuer} (firstPinned : first ∈ resolver.issuers)
    (secondPinned : second ∈ resolver.issuers) (shared : second.url = first.url)
    {statusPurpose : JsString} {outcomes : List HttpOutcome} {entry : CacheEntry} {now : ℚ}
    (answered : fetchAndVerify libraries resolver first now outcomes = some (.ok entry))
    (usable : Usable resolver entry now statusPurpose) (fetchedNow : entry.fetchedAtSeconds = now)
    : ((resolverMachine libraries resolver).run ResolverState.fresh
          [
            .resolve 0 { issuerId := some first.issuerId, statusPurpose } now,
            .fetched 0 outcomes,
            .resolve 1 { issuerId := some second.issuerId, statusPurpose } now
          ]).calls 1
      = some
          {
            request := { issuerId := some second.issuerId, statusPurpose }
            stage := .settled (some second) (.ok entry)
          } := by
  have firstFound := built.pinnedFor firstPinned statusPurpose
  have secondFound := built.pinnedFor secondPinned statusPurpose
  have stale : NoLiveCopy resolver ResolverState.fresh first.url now := by
    intro copy found
    cases found
  have free : ResolverState.fresh.calls 0 = none := rfl
  obtain ⟨copies, others⟩ := run_resolve_accepted firstFound stale free answered usable
  have live : rounded (now - entry.fetchedAtSeconds) < resolver.cacheTtl := by
    rwa [fetchedNow, sub_self, Doubles.rounded_zero]
  have copy
      : ((resolverMachine libraries resolver).run ResolverState.fresh
            [
              .resolve 0 { issuerId := some first.issuerId, statusPurpose } now,
              .fetched 0 outcomes
            ]).cache second.url
        = some entry := by
    rw [copies, shared, Function.update_self]
  have settled :=
    @run_resolve_copy libraries _ _ _ _ _ _ _ secondFound copy live (others 1 Nat.one_ne_zero)
  rw [assertUsable_eq_ok.mpr ⟨usable, rfl⟩] at settled
  exact settled

/-- A resolver with two keys behind one URL answers for the second key with a document of the
first.
-/
theorem shared_url_serves_another_key
    : ¬ ∀ libraries config resolver inputs,
        buildResolver libraries config = .ok resolver
        → AnswersAuthentic libraries resolver inputs := by
  intro always
  let url := js "https://issuer.example/status"
  have secure : (js "https://").isPrefixOf url = true := rfl
  obtain ⟨document, published⟩ :=
    sample_publishes secure 1 [] (by decide)
  let libraries := sampleLibraries (parsesOnly document)
  have published : publishStatusList libraries (sampleRequest url 1 [] none) = .ok document :=
    published _
  obtain ⟨list, input, signature, shape⟩ := publishStatusList_eq_ok published
  let first := samplePin (js "first") url 1
  let second := samplePin (js "second") url 2
  let resolver := defaultResolver sharedPins none
  let now : ℚ := 1750000000
  have well : ∀ pinned ∈ sharedPins, PinnedWell libraries pinned := by
    simp only [sharedPins, List.forall_mem_cons]
    exact ⟨samplePin_well _ _ secure 1, samplePin_well _ _ secure 2, by simp⟩
  have build : buildResolver libraries (defaultLimits sharedPins none) = .ok resolver :=
    buildResolver_sample (parsesOnly document) (by simp [sharedPins]) well (by decide)
  have answered :=
    sample_fetchAndVerify shape (parsesOnly_servedBody document) (by decide +kernel)
      (show resolver.maxBytes = maxStatusListBytes from rfl) (well first List.mem_cons_self)
      { issuer := rfl, method := fun label known => by cases known } rfl now
  have usable := sample_usable shape resolver (Nat.cast_nonneg _) now
  have settled :=
    run_shared_url (buildResolver_eq_ok build).1 (Nat.cast_pos.mpr (by decide))
      (show first ∈ resolver.issuers from List.mem_cons_self)
      (show second ∈ resolver.issuers from List.mem_cons_of_mem _ List.mem_cons_self) rfl answered
      usable rfl
  obtain ⟨pinned, found, authentic⟩ :=
    always libraries _ resolver _ build 1 _ _ _ settled rfl
  obtain rfl : second = pinned := Except.ok.inj found
  obtain ⟨-, -, -, checked⟩ := shape.verify_eq_ok.mp authentic.verified
  obtain ⟨der, keyed, signed⟩ := shape.signed
  cases keyed
  cases signed
  -- The signature starts with the first key, and the second key expects its own.
  have heads : some (1 : UInt8) = some 2 :=
    congrArg List.head? (eq_of_beq (Option.some.inj checked))
  exact absurd heads (by decide)

end StellarOnramp.Gateway
