import StellarOnramp.Gateway.ResolverWindow

/-! The requests of one fetch. A server answers each request as it likes, with redirects among
them; the fetch asks again only so often, and only over HTTPS.
-/

namespace StellarOnramp.Gateway

open Attempts JsText Octets
open StellarOnramp.Identity
open Transitions

-----------------------------------------------------------------------------------------
-- Requests
-----------------------------------------------------------------------------------------

/-- The URLs that are requested while redirects are followed, the last one for the request
that is still out.
-/
def requestsFrom (libraries : StatusLibraries) (resolver : HardenedStatusListResolver)
    (url : JsString) (hops : Nat)
    : List HttpOutcome → List JsString
  | .response response :: rest =>
      url
        :: if 300 ≤ response.status ∧ response.status < 400 then
          if (hops + 1 : Int) > resolver.maxRedirects then
            []
          else
            match redirectTarget libraries url response with
            | .error _ => []
            | .ok next => requestsFrom libraries resolver next (hops + 1) rest
        else
          []
  | _ => [url]

/-- The URLs that a fetch requests; none where the URL of the issuer is refused. -/
def requestedUrls (libraries : StatusLibraries) (resolver : HardenedStatusListResolver)
    (pinned : PinnedStatusListIssuer) (outcomes : List HttpOutcome)
    : List JsString :=
  match assertHttpsUrl libraries pinned.url (js "status list URL") with
  | .error _ => []
  | .ok url => requestsFrom libraries resolver url.href 0 outcomes

/-- The text is an HTTPS URL without user info. -/
def SecureUrl (libraries : StatusLibraries) (text : JsString) : Prop :=
  ∃ url,
    libraries.parseUrl text none = some url
    ∧ url.protocol = js "https:"
    ∧ url.username = []
    ∧ url.password = []

/-- The outcomes of the first requests. -/
def firstOutcomes (outcomes : Nat → HttpOutcome) (answered : Nat) : List HttpOutcome :=
  (List.range answered).map outcomes

@[simp]
theorem firstOutcomes_zero (outcomes : Nat → HttpOutcome) : firstOutcomes outcomes 0 = [] := rfl

@[simp]
theorem firstOutcomes_succ (outcomes : Nat → HttpOutcome) (answered : Nat)
    : firstOutcomes outcomes (answered + 1)
      = outcomes 0 :: firstOutcomes (fun index => outcomes (index + 1)) answered := by
  simp only [firstOutcomes, List.range_succ_eq_map, List.map_cons, List.map_map]
  rfl

section

variable {libraries : StatusLibraries} {resolver : HardenedStatusListResolver}

-----------------------------------------------------------------------------------------
-- Security
-----------------------------------------------------------------------------------------

/-- A redirect leads to a URL that was checked as it will be requested. -/
theorem redirectTarget_secure {url next : JsString} {response : StatusListHttpResponse}
    (target : redirectTarget libraries url response = .ok next)
    : SecureUrl libraries next := by
  obtain ⟨-, target⟩ := failIf_bind_eq_ok.mp target
  split at target
  case h_1 => cases target
  case h_2 parsed _ =>
    obtain ⟨-, target⟩ := failIf_bind_eq_ok.mp target
    obtain ⟨checked, secure, target⟩ := bind_eq_ok.mp target
    cases target
    obtain ⟨-, secure⟩ := assertHttpsUrl_eq_ok.mp (rethrowing_eq_ok.mp secure)
    exact ⟨checked, secure⟩

/-- Every request of a chain that starts at a secure URL is secure, by induction on the
outcomes.
-/
theorem requestsFrom_secure {url : JsString} {hops : Nat} {outcomes : List HttpOutcome}
    (secure : SecureUrl libraries url)
    : ∀ requested ∈ requestsFrom libraries resolver url hops outcomes,
        SecureUrl libraries requested := by
  induction outcomes generalizing url hops with
  | nil => simpa [requestsFrom] using secure
  | cons outcome rest ih =>
      cases outcome with
      | refused reason message => simpa [requestsFrom] using secure
      | aborted => simpa [requestsFrom] using secure
      | failed => simpa [requestsFrom] using secure
      | response response =>
          rw [requestsFrom, List.forall_mem_cons]
          refine ⟨secure, ?_⟩
          split
          case isFalse => simp
          case isTrue =>
            split
            case isTrue => simp
            case isFalse =>
              cases target : redirectTarget libraries url response with
              | error failure => simp
              | ok next => exact ih (redirectTarget_secure target)

-----------------------------------------------------------------------------------------
-- The loop
-----------------------------------------------------------------------------------------

/-- Redirects are followed through so many requests and come to the result. -/
structure Follows (libraries : StatusLibraries) (resolver : HardenedStatusListResolver)
    (url : JsString) (hops : Nat) (outcomes : Nat → HttpOutcome) (requests : Nat)
    (result : Resolution (StatusListHttpResponse × JsString))
    : Prop where
  positive : 0 < requests
  ends
    : ∀ answered,
        followRedirects libraries resolver url hops (firstOutcomes outcomes answered)
        = if answered < requests then none else some result
  requested
    : ∀ answered,
        (requestsFrom libraries resolver url hops (firstOutcomes outcomes answered)).length
        = min (answered + 1) requests
  final
    : ∀ response source,
        result = .ok (response, source) → outcomes (requests - 1) = .response response

/-- The first outcome ends the loop. -/
theorem Follows.once {url : JsString} {hops : Nat} {outcomes : Nat → HttpOutcome}
    {result : Resolution (StatusListHttpResponse × JsString)}
    (settles
      : ∀ rest, followRedirects libraries resolver url hops (outcomes 0 :: rest) = some result)
    (single : ∀ rest, requestsFrom libraries resolver url hops (outcomes 0 :: rest) = [url])
    (final
      : ∀ response source,
          result = .ok (response, source) → outcomes 0 = .response response)
    : Follows libraries resolver url hops outcomes 1 result where
  positive := Nat.one_pos
  ends answered := by
    cases answered with
    | zero => rfl
    | succ answered => simp [settles]
  requested answered := by
    cases answered with
    | zero => rfl
    | succ answered => simp [single]
  final := final

/-- The first outcome is a redirect that is followed. -/
theorem Follows.hop {url next : JsString} {hops : Nat} {outcomes : Nat → HttpOutcome}
    {response : StatusListHttpResponse} {requests : Nat}
    {result : Resolution (StatusListHttpResponse × JsString)}
    (first : outcomes 0 = .response response)
    (redirect : 300 ≤ response.status ∧ response.status < 400)
    (below : ¬ (hops + 1 : Int) > resolver.maxRedirects)
    (target : redirectTarget libraries url response = .ok next)
    (follows
      : Follows libraries resolver next (hops + 1) (fun index => outcomes (index + 1)) requests
          result)
    : Follows libraries resolver url hops outcomes (requests + 1) result where
  positive := Nat.succ_pos _
  ends answered := by
    cases answered with
    | zero => rfl
    | succ answered =>
        simp only [firstOutcomes_succ, first, followRedirects, if_pos redirect, if_neg below,
          target, follows.ends, Nat.add_lt_add_iff_right]
  requested answered := by
    cases answered with
    | zero =>
        have positive := follows.positive
        simp only [firstOutcomes_zero, requestsFrom, List.length_singleton]
        omega
    | succ answered =>
        simp only [firstOutcomes_succ, first, requestsFrom, if_pos redirect, if_neg below,
          target, List.length_cons, follows.requested]
        omega
  final other source ended := by
    have last := follows.final other source ended
    have positive := follows.positive
    rwa [Nat.add_sub_cancel, ← Nat.sub_add_cancel positive]

/-- One outcome ends the loop, or it is a redirect that is followed. -/
theorem ends_or_redirects (libraries : StatusLibraries) (resolver : HardenedStatusListResolver)
    (url : JsString) (hops : Nat) (outcome : HttpOutcome)
    : (∃ result,
          (∀ rest, followRedirects libraries resolver url hops (outcome :: rest) = some result)
          ∧ (∀ rest, requestsFrom libraries resolver url hops (outcome :: rest) = [url])
          ∧ ∀ response source, result = .ok (response, source) → outcome = .response response)
      ∨ ∃ response next,
          outcome = .response response
          ∧ (300 ≤ response.status ∧ response.status < 400)
          ∧ ¬ (hops + 1 : Int) > resolver.maxRedirects
          ∧ redirectTarget libraries url response = .ok next := by
  cases outcome with
  | refused reason message =>
      exact .inl ⟨_, fun _ => rfl, fun _ => rfl, fun _ _ ended => by cases ended⟩
  | aborted => exact .inl ⟨_, fun _ => rfl, fun _ => rfl, fun _ _ ended => by cases ended⟩
  | failed => exact .inl ⟨_, fun _ => rfl, fun _ => rfl, fun _ _ ended => by cases ended⟩
  | response response =>
      by_cases redirect : 300 ≤ response.status ∧ response.status < 400
      · by_cases above : (hops + 1 : Int) > resolver.maxRedirects
        · obtain ⟨failure, tooMany⟩
              : ∃ failure, ∀ rest,
                  followRedirects libraries resolver url hops (.response response :: rest)
                  = some (.error failure) :=
            ⟨_, fun rest => by rw [followRedirects, if_pos redirect, if_pos above]⟩
          refine .inl ⟨.error failure, tooMany, fun rest => ?_, fun _ _ ended => ?_⟩
          · rw [requestsFrom, if_pos redirect, if_pos above]
          · cases ended
        · cases target : redirectTarget libraries url response with
          | error failure =>
              refine .inl ⟨.error failure, fun rest => ?_, fun rest => ?_, fun _ _ ended => ?_⟩
              · simp only [followRedirects, if_pos redirect, if_neg above, target]
              · simp only [requestsFrom, if_pos redirect, if_neg above, target]
              · cases ended
          | ok next => exact .inr ⟨response, next, rfl, redirect, above, target⟩
      · refine .inl ⟨.ok (response, url), fun rest => ?_, fun rest => ?_, fun _ _ ended => ?_⟩
        · rw [followRedirects, if_neg redirect]
        · rw [requestsFrom, if_neg redirect]
        · cases ended
          rfl

/-- The loop ends while redirects are left, by induction on how many are left. -/
theorem exists_follows {left : Nat} {url : JsString} {hops : Nat}
    (capped : resolver.maxRedirects = (hops + left : Nat)) (outcomes : Nat → HttpOutcome)
    : ∃ requests ≤ left + 1, ∃ result,
        Follows libraries resolver url hops outcomes requests result := by
  induction left generalizing url hops outcomes with
  | zero =>
      rcases ends_or_redirects libraries resolver url hops (outcomes 0) with
        ⟨result, settles, single, final⟩ | ⟨response, next, -, -, below, -⟩
      · exact ⟨1, le_rfl, result, .once settles single final⟩
      · refine absurd ?_ below
        rw [capped]
        exact_mod_cast Nat.lt_succ_self hops
  | succ left ih =>
      rcases ends_or_redirects libraries resolver url hops (outcomes 0) with
        ⟨result, settles, single, final⟩ | ⟨response, next, first, redirect, below, target⟩
      · exact ⟨1, by omega, result, .once settles single final⟩
      · have remaining : resolver.maxRedirects = (hops + 1 + left : Nat) := by
          rw [capped, Nat.add_right_comm]
          rfl
        obtain ⟨requests, few, result, follows⟩ :=
          @ih next (hops + 1) remaining (fun index => outcomes (index + 1))
        exact ⟨requests + 1, by omega, result, .hop first redirect below target follows⟩

-----------------------------------------------------------------------------------------
-- One fetch
-----------------------------------------------------------------------------------------

/-- A fetch makes so many requests and comes to the result. -/
structure Fetches (libraries : StatusLibraries) (resolver : HardenedStatusListResolver)
    (pinned : PinnedStatusListIssuer) (now : ℚ) (outcomes : Nat → HttpOutcome) (requests : Nat)
    (result : Resolution CacheEntry)
    : Prop where
  ends
    : ∀ answered,
        fetchAndVerify libraries resolver pinned now (firstOutcomes outcomes answered)
        = if answered < requests then none else some result
  requested
    : ∀ answered,
        (requestedUrls libraries resolver pinned (firstOutcomes outcomes answered)).length
        = min (answered + 1) requests
  document
    : ∀ entry,
        result = .ok entry
        → ∃ response,
            0 < requests
            ∧ outcomes (requests - 1) = .response response
            ∧ response.status = 200
            ∧ (response.body.length : Int) ≤ resolver.maxBytes
            ∧ libraries.parseJson response.body = some entry.document

theorem exists_fetches {maxRedirects : Nat} (capped : resolver.maxRedirects = maxRedirects)
    (libraries : StatusLibraries) (pinned : PinnedStatusListIssuer) (now : ℚ)
    (outcomes : Nat → HttpOutcome)
    : ∃ requests ≤ maxRedirects + 1, ∃ result,
        Fetches libraries resolver pinned now outcomes requests result := by
  cases secure : assertHttpsUrl libraries pinned.url (js "status list URL") with
  | error failure =>
      refine ⟨0, Nat.zero_le _, .error (.thrown failure), ?_⟩
      exact {
        ends := fun _ => by simp [fetchAndVerify, secure]
        requested := fun _ => by simp [requestedUrls, secure]
        document := fun _ ended => by cases ended
      }
  | ok url =>
      obtain ⟨requests, few, result, follows⟩ :=
        @exists_follows libraries resolver maxRedirects url.href 0
          (by rw [capped, Nat.zero_add]) outcomes
      refine
        ⟨requests, few, result >>= fun fetched =>
          verifyResponse libraries resolver pinned now fetched.2 fetched.1, ?_⟩
      refine { ends := fun answered => ?_, requested := fun answered => ?_, document := ?_ }
      · simp only [fetchAndVerify, secure, follows.ends]
        split <;> rfl
      · simp only [requestedUrls, secure, follows.requested]
      · intro entry ended
        obtain ⟨⟨response, source⟩, reached, verified⟩ := bind_eq_ok.mp ended
        have fetched := verifyResponse_eq_ok.mp verified
        exact ⟨response, follows.positive, follows.final response source reached, fetched.status,
          fetched.short, fetched.parsed⟩

/-- Every URL that a fetch requests is secure, if the text of an HTTPS URL parses as that
URL.
-/
theorem requestedUrls_secure
    (reparses
      : ∀ raw url,
          libraries.parseUrl raw none = some url
          → url.protocol = js "https:"
          → libraries.parseUrl url.href none = some url)
    (pinned : PinnedStatusListIssuer) (outcomes : List HttpOutcome)
    : ∀ requested ∈ requestedUrls libraries resolver pinned outcomes,
        SecureUrl libraries requested := by
  unfold requestedUrls
  cases secure : assertHttpsUrl libraries pinned.url (js "status list URL") with
  | error failure => simp
  | ok url =>
      obtain ⟨-, parsed, protocol, clean⟩ := assertHttpsUrl_eq_ok.mp secure
      exact requestsFrom_secure ⟨url, reparses _ url parsed protocol, protocol, clean⟩

/-- A fetch that has come to its result settles its call: with the document, which becomes the
copy, or with an error, which leaves the copies as they are.
-/
theorem Fetches.settles {pinned : PinnedStatusListIssuer} {now : ℚ}
    {outcomes : Nat → HttpOutcome} {requests : Nat} {result : Resolution CacheEntry}
    (fetches : Fetches libraries resolver pinned now outcomes requests result)
    {state : ResolverState} {id : Nat} {request : ResolveRequest}
    (waiting : state.calls id = some { request, stage := .fetching pinned now })
    : ∃ after outcome,
        (resolverMachine libraries resolver).step state
            (.fetched id (firstOutcomes outcomes requests))
          = some after
        ∧ after.calls id = some { request, stage := .settled (some pinned) outcome }
        ∧ ((∃ failure, outcome = .error failure ∧ after.cache = state.cache)
          ∨ ∃ entry, result = .ok entry ∧ outcome = .ok entry) := by
  have settled
      : fetchAndVerify libraries resolver pinned now (firstOutcomes outcomes requests)
        = some result := by
    rw [fetches.ends, if_neg (Nat.lt_irrefl _)]
  simp only [resolverMachine, waiting, settled, Option.map_some]
  refine ⟨_, _, rfl, Function.update_self _ _ _, ?_⟩
  cases outcome
    : result >>= fun entry =>
        assertUsable libraries resolver entry now pinned request.statusPurpose with
  | error failure => exact .inl ⟨failure, rfl, rfl⟩
  | ok entry =>
      obtain ⟨other, same, checked⟩ := bind_eq_ok.mp outcome
      obtain ⟨-, rfl⟩ := assertUsable_eq_ok.mp checked
      exact .inr ⟨entry, same, rfl⟩

/-- Whatever the server answers, a fetch ends after at most one request more than it may
follow redirects, requests secure URLs only, and gives a document only from a response with
status 200 that is short enough. Every other fetch throws and leaves the copies as they are.
-/
theorem redirect_loop {maxRedirects : Nat} (capped : resolver.maxRedirects = maxRedirects)
    (reparses
      : ∀ raw url,
          libraries.parseUrl raw none = some url
          → url.protocol = js "https:"
          → libraries.parseUrl url.href none = some url)
    (pinned : PinnedStatusListIssuer) (now : ℚ) (outcomes : Nat → HttpOutcome)
    : ∃ requests ≤ maxRedirects + 1, ∃ result,
        Fetches libraries resolver pinned now outcomes requests result
        ∧ (∀ answered,
            ∀ url ∈ requestedUrls libraries resolver pinned (firstOutcomes outcomes answered),
              SecureUrl libraries url)
        ∧ ∀ state id request,
            state.calls id = some { request, stage := .fetching pinned now }
            → ∃ after outcome,
                (resolverMachine libraries resolver).step state
                    (.fetched id (firstOutcomes outcomes requests))
                  = some after
                ∧ after.calls id = some { request, stage := .settled (some pinned) outcome }
                ∧ ((∃ failure, outcome = .error failure ∧ after.cache = state.cache)
                  ∨ ∃ entry, result = .ok entry ∧ outcome = .ok entry) := by
  obtain ⟨requests, few, result, fetches⟩ := exists_fetches capped libraries pinned now outcomes
  refine ⟨requests, few, result, fetches, ?_, ?_⟩
  · intro answered
    exact requestedUrls_secure reparses pinned (firstOutcomes outcomes answered)
  · intro state id request waiting
    exact fetches.settles waiting

end

/-- A redirect to another page, and a response that is no document. -/
def sampleRedirect (index : Nat) : HttpOutcome :=
  if index = 0 then
    .response { status := 302, location := some (js "https://issuer.example/other"), body := [] }
  else
    .response { status := 404, location := none, body := [] }

theorem redirect_loop_sample
    : ∃ requests ≤ 3 + 1, ∃ result,
        Fetches (sampleLibraries (fun _ => none))
          (defaultResolver [samplePin (js "first") (js "https://issuer.example/status") 1] none)
          (samplePin (js "first") (js "https://issuer.example/status") 1) 1750000000 sampleRedirect
          requests result := by
  have reparses
      : ∀ raw url,
          (sampleLibraries (fun _ => none)).parseUrl raw none = some url
          → url.protocol = js "https:"
          → (sampleLibraries (fun _ => none)).parseUrl url.href none = some url := by
    intro raw url parsed _
    have parsed : sampleParseUrl raw none = some url := parsed
    unfold sampleParseUrl at parsed
    split at parsed
    case isFalse => cases parsed
    case isTrue secure =>
      cases parsed
      exact if_pos secure
  obtain ⟨requests, few, result, fetches, -, -⟩ :=
    @redirect_loop _
      (defaultResolver [samplePin (js "first") (js "https://issuer.example/status") 1] none) 3 rfl
      reparses (samplePin (js "first") (js "https://issuer.example/status") 1) 1750000000
      sampleRedirect
  exact ⟨requests, few, result, fetches⟩

end StellarOnramp.Gateway
