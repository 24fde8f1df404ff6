import Mathlib.Algebra.Order.Field.Rat
import StellarOnramp.Gateway.DocumentSize
import StellarOnramp.Gateway.StatusResolver

/-! What the resolver checked of a document that it accepts, and what that means for a published
one.
-/

namespace StellarOnramp.Gateway

open Attempts JsText Octets
open StellarOnramp.Identity
open Transitions
open Doubles (rounded)

-----------------------------------------------------------------------------------------
-- Dates
-----------------------------------------------------------------------------------------

/-- The first second of the year 10000. -/
def firstLateSecond : Nat := 253402300800

/-- A written date reads back exactly when its year has four digits. -/
theorem parseXsdDateTime_dateText {seconds read : Number} {field : JsString}
    (natural : 0 ≤ seconds)
    : parseXsdDateTime (some (.string (dateText seconds))) field = .ok read
      ↔ seconds < firstLateSecond ∧ read = seconds := by
  obtain ⟨seconds, rfl⟩ := Int.eq_ofNat_of_zero_le natural
  have early : (seconds : Int) < firstLateSecond ↔ (Calendar.fieldsAt seconds).year ≤ 9999 := by
    rw [Calendar.fieldsAt_year_le]
    exact_mod_cast Iff.rfl
  simp only [parseXsdDateTime, dateText, Int.toNat_natCast]
  rw [early]
  by_cases four : (Calendar.fieldsAt seconds).year ≤ 9999
  · have valid := Calendar.fieldsAt_valid seconds
    rw [Calendar.readDateTime_isoText valid four]
    simp only [Calendar.dateParse_eq valid, Calendar.instantOf_fieldsAt]
    simp [four, eq_comm]
  · rw [Calendar.readDateTime_late four]
    simp [four]

-----------------------------------------------------------------------------------------
-- One response
-----------------------------------------------------------------------------------------

theorem verifyFetched_eq_ok {libraries : StatusLibraries} {pinned : PinnedStatusListIssuer}
    {url : JsString} {document : Json.Value}
    : verifyFetched libraries pinned url document = .ok ()
      ↔ verifyStatusListCredential libraries.signatures libraries.sha256 document pinned.signer
        = .ok () := by
  unfold verifyFetched
  split <;> simp_all

/-- What an accepted response was checked for. -/
structure Fetched (libraries : StatusLibraries) (resolver : HardenedStatusListResolver)
    (pinned : PinnedStatusListIssuer) (now : ℚ) (response : StatusListHttpResponse)
    (entry : CacheEntry)
    : Prop where
  status : response.status = 200
  short : (response.body.length : Int) ≤ resolver.maxBytes
  parsed : libraries.parseJson response.body = some entry.document
  verified
    : verifyStatusListCredential libraries.signatures libraries.sha256 entry.document
        pinned.signer
      = .ok ()
  validFrom
    : parseXsdDateTime (entry.document.get (js "validFrom")) (js "validFrom")
      = .ok entry.validFromSeconds
  validUntil
    : parseXsdDateTime (entry.document.get (js "validUntil")) (js "validUntil")
      = .ok entry.validUntilSeconds
  window : entry.validFromSeconds < entry.validUntilSeconds
  list : entry.list = toBitstringStatusList entry.document
  decodes
    : ∃ decoded,
        decodeStatusList libraries.platform entry.list (some entry.list.statusPurpose)
        = .ok decoded
  fetchedAt : entry.fetchedAtSeconds = now

/-- Witness: the checks in source order. -/
theorem verifyResponse_eq_ok {libraries : StatusLibraries}
    {resolver : HardenedStatusListResolver} {pinned : PinnedStatusListIssuer} {now : ℚ}
    {url : JsString} {response : StatusListHttpResponse} {entry : CacheEntry}
    : verifyResponse libraries resolver pinned now url response = .ok entry
      ↔ Fetched libraries resolver pinned now response entry := by
  rw [verifyResponse, failIf_bind_eq_ok, failIf_bind_eq_ok, not_not, not_lt]
  constructor
  · rintro ⟨status, short, accepted⟩
    split at accepted
    case h_1 => cases accepted
    case h_2 document parsed =>
      rcases bind_eq_ok.mp accepted with ⟨_, verified, accepted⟩
      rcases bind_eq_ok.mp accepted with ⟨validFrom, fromRead, accepted⟩
      rcases bind_eq_ok.mp accepted with ⟨validUntil, untilRead, accepted⟩
      rcases failIf_bind_eq_ok.mp accepted with ⟨window, accepted⟩
      rcases bind_eq_ok.mp accepted with ⟨decoded, decodes, accepted⟩
      cases accepted
      exact {
        status
        short
        parsed
        verified := verifyFetched_eq_ok.mp verified
        validFrom := rethrowing_eq_ok.mp fromRead
        validUntil := rethrowing_eq_ok.mp untilRead
        window := not_le.mp window
        list := rfl
        decodes := ⟨decoded, rethrowing_eq_ok.mp decodes⟩
        fetchedAt := rfl
      }
  · intro fetched
    obtain ⟨document, list, validFrom, validUntil, fetchedAt⟩ := entry
    obtain ⟨status, short, parsed, verified, fromRead, untilRead, window, same, ⟨decoded, decodes⟩,
      time⟩ := fetched
    dsimp only at parsed verified fromRead untilRead window same decodes time
    subst same time
    refine ⟨status, short, ?_⟩
    rw [parsed]
    refine bind_eq_ok.mpr ⟨(), verifyFetched_eq_ok.mpr verified, ?_⟩
    refine bind_eq_ok.mpr ⟨validFrom, rethrowing_eq_ok.mpr fromRead, ?_⟩
    refine bind_eq_ok.mpr ⟨validUntil, rethrowing_eq_ok.mpr untilRead, ?_⟩
    refine failIf_bind_eq_ok.mpr ⟨not_le.mpr window, ?_⟩
    exact bind_eq_ok.mpr ⟨decoded, rethrowing_eq_ok.mpr decodes, rfl⟩

/-- What an entry is checked for when it is returned. -/
structure Usable (resolver : HardenedStatusListResolver) (entry : CacheEntry) (now : ℚ)
    (wanted : JsString)
    : Prop where
  begun : (entry.validFromSeconds : ℚ) ≤ rounded (now + 60)
  valid : now < entry.validUntilSeconds
  fresh : rounded (now - entry.validFromSeconds) ≤ resolver.maxAge
  purpose : entry.list.statusPurpose = wanted

theorem assertUsable_eq_ok {libraries : StatusLibraries} {resolver : HardenedStatusListResolver}
    {entry returned : CacheEntry} {now : ℚ} {pinned : PinnedStatusListIssuer} {wanted : JsString}
    : assertUsable libraries resolver entry now pinned wanted = .ok returned
      ↔ Usable resolver entry now wanted ∧ returned = entry := by
  rw [assertUsable, bind_eq_ok]
  constructor
  · rintro ⟨_, usable, accepted⟩
    rcases failIf_bind_eq_ok.mp usable with ⟨begun, usable⟩
    rcases failIf_bind_eq_ok.mp usable with ⟨valid, usable⟩
    have fresh := failIf_eq_ok.mp usable
    rcases failIf_bind_eq_ok.mp accepted with ⟨purpose, accepted⟩
    cases accepted
    refine ⟨?_, rfl⟩
    exact {
      begun := not_lt.mp begun
      valid := not_le.mp valid
      fresh := not_lt.mp fresh
      purpose := not_not.mp purpose
    }
  · rintro ⟨usable, rfl⟩
    refine ⟨(), ?_, failIf_bind_eq_ok.mpr ⟨not_not.mpr usable.purpose, rfl⟩⟩
    refine failIf_bind_eq_ok.mpr ⟨not_lt.mpr usable.begun, ?_⟩
    refine failIf_bind_eq_ok.mpr ⟨not_le.mpr usable.valid, ?_⟩
    exact failIf_eq_ok.mpr (not_lt.mpr usable.fresh)

-----------------------------------------------------------------------------------------
-- The response of a published document
-----------------------------------------------------------------------------------------

/-- The text that a document is served as. -/
def servedBody (document : Json.Value) : Bytes := utf8ToBytes (Json.stringify document)

def servedResponse (document : Json.Value) : StatusListHttpResponse :=
  { status := 200, location := none, body := servedBody document }

/-- The entry that a published document becomes. -/
def publishedEntry (request : PublishStatusListRequest) (list : BitstringStatusList)
    (document : Json.Value) (now : ℚ)
    : CacheEntry :=
  {
    document
    list
    validFromSeconds := request.validFromSeconds
    validUntilSeconds := request.validUntil
    fetchedAtSeconds := now
  }

/-- A published document is fetched as its entry exactly when its text and its bits fit, its
years have four digits, and its signer is pinned.
-/
theorem Published.fetched_iff {libraries : StatusLibraries} {request : PublishStatusListRequest}
    {list : BitstringStatusList} {input signature : Bytes} {document : Json.Value}
    {entries statusSize : Nat} {bits : Bytes} {resolver : HardenedStatusListResolver}
    {pinned : PinnedStatusListIssuer} {now : ℚ} {entry : CacheEntry}
    (published : Published libraries request list input signature document)
    (encoded : Encoded libraries.platform request.encoding list entries statusSize bits)
    (roundTrips : libraries.platform.RoundTrips)
    (parses : libraries.parseJson (servedBody document) = some document)
    : Fetched libraries resolver pinned now (servedResponse document) entry
      ↔ ((servedBody document).length : Int) ≤ resolver.maxBytes
        ∧ bits.length ≤ maxStatusListBytes
        ∧ request.validUntil < firstLateSecond
        ∧ verifyStatusListCredential libraries.signatures libraries.sha256 document pinned.signer
          = .ok ()
        ∧ entry = publishedEntry request list document now := by
  have natural := published.natural
  have later : 0 ≤ request.validUntil := natural.trans published.window.le
  have purpose : list.statusPurpose = request.statusPurpose := by
    rw [encoded.list, wireList_statusPurpose]
    rfl
  have members
      : document.get (js "validFrom") = some (.string (dateText request.validFromSeconds))
        ∧ document.get (js "validUntil") = some (.string (dateText request.validUntil))
        ∧ toBitstringStatusList document = list := by
    rw [published.document]
    exact ⟨rfl, rfl, toBitstringStatusList_signedDocument request list signature⟩
  obtain ⟨fromMember, untilMember, subject⟩ := members
  have decoding (decoded : DecodedStatusList)
      : decodeStatusList libraries.platform list (some list.statusPurpose) = .ok decoded
        ↔ bits.length ≤ maxStatusListBytes
          ∧ decoded = { statusPurpose := request.statusPurpose, statusSize, bits } := by
    rw [purpose]
    exact encoded.decodeStatusList_eq_ok roundTrips
  constructor
  · intro fetched
    obtain ⟨held, kept, validFrom, validUntil, fetchedAt⟩ := entry
    obtain ⟨-, short, parsed, verified, fromRead, untilRead, -, same, ⟨decoded, decodes⟩, time⟩ :=
      fetched
    obtain rfl : document = held := Option.some.inj (parses.symm.trans parsed)
    dsimp only at fromRead untilRead same decodes time
    rw [fromMember, parseXsdDateTime_dateText natural] at fromRead
    rw [untilMember, parseXsdDateTime_dateText later] at untilRead
    obtain ⟨-, rfl⟩ := fromRead
    obtain ⟨dated, rfl⟩ := untilRead
    rw [subject] at same
    subst same time
    exact ⟨short, ((decoding decoded).mp decodes).1, dated, verified, rfl⟩
  · rintro ⟨short, fits, dated, verified, rfl⟩
    exact {
      status := rfl
      short
      parsed := parses
      verified
      validFrom := by
        dsimp only [publishedEntry]
        rw [fromMember, parseXsdDateTime_dateText natural]
        exact ⟨published.window.trans dated, rfl⟩
      validUntil := by
        dsimp only [publishedEntry]
        rw [untilMember, parseXsdDateTime_dateText later]
        exact ⟨dated, rfl⟩
      window := published.window
      list := subject.symm
      decodes := ⟨_, (decoding _).mpr ⟨fits, rfl⟩⟩
      fetchedAt := rfl
    }

-----------------------------------------------------------------------------------------
-- Pinned issuers
-----------------------------------------------------------------------------------------

/-- What the constructor checked of a pinned issuer. -/
structure PinnedWell (libraries : StatusLibraries) (pinned : PinnedStatusListIssuer) : Prop where
  secure : ∃ url, ∀ what, assertHttpsUrl libraries pinned.url what = .ok url
  key : pinned.publicKeyRaw.length = 32

/-- By induction on the issuers. -/
theorem pinIssuers_eq_ok {libraries : StatusLibraries}
    {before issuers pinned : List PinnedStatusListIssuer}
    (distinct : (before.map PinnedStatusListIssuer.issuerId).Nodup)
    (done : pinIssuers libraries before issuers = .ok pinned)
    : pinned = before ++ issuers
      ∧ (pinned.map PinnedStatusListIssuer.issuerId).Nodup
      ∧ ∀ issuer ∈ issuers, PinnedWell libraries issuer := by
  induction issuers generalizing before with
  | nil =>
      cases done
      exact ⟨(List.append_nil _).symm, distinct, by simp⟩
  | cons issuer rest ih =>
      rcases bind_eq_ok.mp done with ⟨url, secure, done⟩
      rcases failIf_bind_eq_ok.mp done with ⟨key, done⟩
      rcases failIf_bind_eq_ok.mp done with ⟨new, done⟩
      have distinct : ((before ++ [issuer]).map PinnedStatusListIssuer.issuerId).Nodup := by
        rw [List.map_append, List.map_cons, List.map_nil]
        exact distinct.append (List.nodup_singleton _) (List.disjoint_singleton.mpr new)
      obtain ⟨same, distinct, later⟩ := ih distinct done
      refine ⟨by rw [same, List.append_assoc]; rfl, distinct, ?_⟩
      refine List.forall_mem_cons.mpr ⟨?_, later⟩
      have reached := assertHttpsUrl_eq_ok.mp (rethrowing_eq_ok.mp secure)
      exact {
        secure := ⟨url, fun what => assertHttpsUrl_eq_ok.mpr reached⟩
        key := not_not.mp key
      }

/-- Well formed issuers of distinct ids can be pinned, by induction on them. -/
theorem pinIssuers_succeeds {libraries : StatusLibraries}
    (before : List PinnedStatusListIssuer) {issuers : List PinnedStatusListIssuer}
    (distinct : ((before ++ issuers).map PinnedStatusListIssuer.issuerId).Nodup)
    (well : ∀ issuer ∈ issuers, PinnedWell libraries issuer)
    : pinIssuers libraries before issuers = .ok (before ++ issuers) := by
  induction issuers generalizing before with
  | nil => exact congrArg Except.ok (List.append_nil before).symm
  | cons issuer rest ih =>
      obtain ⟨⟨⟨url, secure⟩, key⟩, later⟩ := List.forall_mem_cons.mp well
      have new : issuer.issuerId ∉ before.map PinnedStatusListIssuer.issuerId := by
        rw [List.map_append, List.nodup_append] at distinct
        intro member
        exact distinct.2.2 _ member _ List.mem_cons_self rfl
      refine bind_eq_ok.mpr ⟨url, rethrowing_eq_ok.mpr (secure _), ?_⟩
      refine failIf_bind_eq_ok.mpr ⟨not_not.mpr key, failIf_bind_eq_ok.mpr ⟨new, ?_⟩⟩
      rw [ih (before ++ [issuer]) (by rwa [List.append_assoc]) later, List.append_assoc]
      rfl

/-- What the constructor guarantees of a resolver. -/
structure Built (libraries : StatusLibraries) (resolver : HardenedStatusListResolver) : Prop where
  distinct : (resolver.issuers.map PinnedStatusListIssuer.issuerId).Nodup
  pinned : ∀ pinned ∈ resolver.issuers, PinnedWell libraries pinned

theorem buildResolver_eq_ok {libraries : StatusLibraries}
    {config : HardenedStatusListResolverConfig} {resolver : HardenedStatusListResolver}
    (built : buildResolver libraries config = .ok resolver)
    : Built libraries resolver
      ∧ resolver.issuers = config.issuers
      ∧ resolver.maxAge = config.maxAgeSeconds.getD defaultStatusListMaxAgeSeconds
      ∧ resolver.maxBytes = config.maxBytes.getD maxStatusListBytes := by
  rcases failIf_bind_eq_ok.mp built with ⟨-, built⟩
  rcases bind_eq_ok.mp built with ⟨issuers, pinned, built⟩
  rcases failIf_bind_eq_ok.mp built with ⟨-, built⟩
  rcases failIf_bind_eq_ok.mp built with ⟨-, built⟩
  cases built
  have nothing : (([] : List PinnedStatusListIssuer).map PinnedStatusListIssuer.issuerId).Nodup :=
    List.nodup_nil
  obtain ⟨same, distinct, every⟩ := pinIssuers_eq_ok nothing pinned
  obtain rfl : issuers = config.issuers := same
  exact ⟨{ distinct, pinned := every }, rfl, rfl, rfl⟩

/-- A configuration that leaves every limit at its default. -/
def defaultLimits (issuers : List PinnedStatusListIssuer) (defaultIssuerId : Option JsString)
    : HardenedStatusListResolverConfig :=
  {
    issuers
    maxAgeSeconds := none
    cacheTtlSeconds := none
    timeoutMs := none
    maxBytes := none
    maxRedirects := none
    defaultIssuerId
  }

/-- The resolver that such a configuration builds. -/
def defaultResolver (issuers : List PinnedStatusListIssuer) (defaultIssuerId : Option JsString)
    : HardenedStatusListResolver :=
  {
    issuers
    maxAge := defaultStatusListMaxAgeSeconds
    cacheTtl := defaultStatusListCacheTtlSeconds
    timeoutMs := defaultStatusListTimeoutMs
    maxBytes := maxStatusListBytes
    maxRedirects := maxStatusListRedirects
    defaultIssuerId
  }

/-- A resolver can be built with the default times and any limit on the size. -/
theorem buildResolver_sized {libraries : StatusLibraries} {issuers : List PinnedStatusListIssuer}
    (filled : issuers ≠ []) (pinned : pinIssuers libraries [] issuers = .ok issuers)
    (defaultIssuerId : Option JsString) (maxBytes : Option Number)
    : buildResolver libraries { defaultLimits issuers defaultIssuerId with maxBytes }
      = .ok
          { defaultResolver issuers defaultIssuerId with
            maxBytes := maxBytes.getD maxStatusListBytes
          } := by
  have positive : ¬ (defaultStatusListMaxAgeSeconds : ℚ) ≤ 0 :=
    not_le.mpr (Nat.cast_pos.mpr (by decide))
  have shorter : ¬ (defaultStatusListCacheTtlSeconds : ℚ) > defaultStatusListMaxAgeSeconds :=
    not_lt.mpr (Nat.cast_le.mpr (by decide))
  refine failIf_bind_eq_ok.mpr ⟨filled, bind_eq_ok.mpr ⟨issuers, pinned, ?_⟩⟩
  exact failIf_bind_eq_ok.mpr ⟨positive, failIf_bind_eq_ok.mpr ⟨shorter, rfl⟩⟩

theorem buildResolver_defaultLimits {libraries : StatusLibraries}
    {issuers : List PinnedStatusListIssuer} (filled : issuers ≠ [])
    (pinned : pinIssuers libraries [] issuers = .ok issuers) (defaultIssuerId : Option JsString)
    : buildResolver libraries (defaultLimits issuers defaultIssuerId)
      = .ok (defaultResolver issuers defaultIssuerId) :=
  buildResolver_sized filled pinned defaultIssuerId none

/-- A pinned issuer is found by its id. -/
theorem Built.pinnedFor {libraries : StatusLibraries} {resolver : HardenedStatusListResolver}
    (built : Built libraries resolver) {pinned : PinnedStatusListIssuer}
    (member : pinned ∈ resolver.issuers) (statusPurpose : JsString)
    : Gateway.pinnedFor resolver { issuerId := some pinned.issuerId, statusPurpose }
      = .ok pinned := by
  have found
      : resolver.issuers.find? (fun other => other.issuerId = pinned.issuerId) = some pinned := by
    cases outcome : resolver.issuers.find? (fun other => other.issuerId = pinned.issuerId) with
    | none =>
        rw [List.find?_eq_none] at outcome
        exact absurd (outcome pinned member) (by simp)
    | some other =>
        have same : other.issuerId = pinned.issuerId := by
          simpa using List.find?_some outcome
        exact congrArg some
          (List.inj_on_of_nodup_map built.distinct (List.mem_of_find?_eq_some outcome) member same)
  have named : (some pinned.issuerId <|> resolver.defaultIssuerId) = some pinned.issuerId := rfl
  simp only [Gateway.pinnedFor, named, found]

-----------------------------------------------------------------------------------------
-- One fetch
-----------------------------------------------------------------------------------------

/-- No copy of a list may be served any more. -/
def NoLiveCopy (resolver : HardenedStatusListResolver) (state : ResolverState) (url : JsString)
    (now : ℚ)
    : Prop :=
  ∀ cached,
    state.cache url = some cached → resolver.cacheTtl ≤ rounded (now - cached.fetchedAtSeconds)

theorem startResolve_stale (libraries : StatusLibraries)
    {resolver : HardenedStatusListResolver} {request : ResolveRequest}
    {pinned : PinnedStatusListIssuer} {state : ResolverState} {now : ℚ}
    (found : pinnedFor resolver request = .ok pinned)
    (stale : NoLiveCopy resolver state pinned.url now)
    : startResolve libraries resolver state.cache request now = .fetching pinned now := by
  simp only [startResolve, found]
  cases copy : state.cache pinned.url with
  | none => rfl
  | some cached => exact if_neg (not_lt.mpr (stale cached copy))

/-- A call that finds no live copy settles with what it fetches. -/
theorem run_resolve_fetched {libraries : StatusLibraries}
    {resolver : HardenedStatusListResolver} {request : ResolveRequest}
    {pinned : PinnedStatusListIssuer} {state : ResolverState} {now : ℚ} {id : Nat}
    {outcomes : List HttpOutcome} {fetched : Resolution CacheEntry}
    (found : pinnedFor resolver request = .ok pinned)
    (stale : NoLiveCopy resolver state pinned.url now) (free : state.calls id = none)
    (answered : fetchAndVerify libraries resolver pinned now outcomes = some fetched)
    : ((resolverMachine libraries resolver).run state
          [.resolve id request now, .fetched id outcomes]).calls id
      = some
          {
            request
            stage :=
              .settled (some pinned)
                (fetched >>= fun entry =>
                  assertUsable libraries resolver entry now pinned request.statusPurpose)
          } := by
  have started := startResolve_stale libraries found stale
  simp only [Machine.run_cons, Machine.run_nil, Machine.next, resolverMachine, free, started,
    Option.getD_some, Function.update_self, answered, Option.map_some]

/-- What an accepted fetch leaves: its copy, and the other calls as they were. -/
theorem run_resolve_accepted {libraries : StatusLibraries}
    {resolver : HardenedStatusListResolver} {request : ResolveRequest}
    {pinned : PinnedStatusListIssuer} {state : ResolverState} {now : ℚ} {id : Nat}
    {outcomes : List HttpOutcome} {entry : CacheEntry}
    (found : pinnedFor resolver request = .ok pinned)
    (stale : NoLiveCopy resolver state pinned.url now) (free : state.calls id = none)
    (answered : fetchAndVerify libraries resolver pinned now outcomes = some (.ok entry))
    (usable : Usable resolver entry now request.statusPurpose)
    : ((resolverMachine libraries resolver).run state
          [.resolve id request now, .fetched id outcomes]).cache
        = Function.update state.cache pinned.url (some entry)
      ∧ ∀ other,
          other ≠ id
          → ((resolverMachine libraries resolver).run state
              [.resolve id request now, .fetched id outcomes]).calls other
            = state.calls other := by
  have started := startResolve_stale libraries found stale
  have accepted
      : assertUsable libraries resolver entry now pinned request.statusPurpose = .ok entry :=
    assertUsable_eq_ok.mpr ⟨usable, rfl⟩
  have settled
      : ((Except.ok entry : Resolution CacheEntry) >>= fun entry =>
          assertUsable libraries resolver entry now pinned request.statusPurpose)
        = .ok entry := accepted
  simp only [Machine.run_cons, Machine.run_nil, Machine.next, resolverMachine, free, started,
    Option.getD_some, Function.update_self, answered, Option.map_some, settled]
  refine ⟨trivial, fun other apart => ?_⟩
  rw [Function.update_of_ne apart, Function.update_of_ne apart]

/-- A live copy is served to every issuer of its URL. -/
theorem run_resolve_copy {libraries : StatusLibraries} {resolver : HardenedStatusListResolver}
    {request : ResolveRequest} {pinned : PinnedStatusListIssuer} {state : ResolverState}
    {now : ℚ} {id : Nat} {cached : CacheEntry}
    (found : pinnedFor resolver request = .ok pinned)
    (copy : state.cache pinned.url = some cached)
    (live : rounded (now - cached.fetchedAtSeconds) < resolver.cacheTtl) (free : state.calls id = none)
    : ((resolverMachine libraries resolver).run state [.resolve id request now]).calls id
      = some
          {
            request
            stage :=
              .settled (some pinned)
                (assertUsable libraries resolver cached now pinned request.statusPurpose)
          } := by
  have started
      : startResolve libraries resolver state.cache request now
        = .settled (some pinned)
            (assertUsable libraries resolver cached now pinned request.statusPurpose) := by
    simp only [startResolve, found, copy, if_pos live]
  simp only [Machine.run_cons, Machine.run_nil, Machine.next, resolverMachine, free, started,
    Option.getD_some, Function.update_self]

/-- A response that is no redirect is verified at once. -/
theorem fetchAndVerify_response {libraries : StatusLibraries}
    (resolver : HardenedStatusListResolver) {pinned : PinnedStatusListIssuer} (now : ℚ)
    {response : StatusListHttpResponse} (well : PinnedWell libraries pinned)
    (direct : response.status = 200)
    : ∃ url,
        fetchAndVerify libraries resolver pinned now [.response response]
        = some (verifyResponse libraries resolver pinned now url response) := by
  obtain ⟨url, secure⟩ := well.secure
  have final : ¬ (300 ≤ response.status ∧ response.status < 400) := by
    rw [direct]
    decide
  refine ⟨url.href, ?_⟩
  simp only [fetchAndVerify, secure, followRedirects, if_neg final, Option.map_some]
  rfl

end StellarOnramp.Gateway
