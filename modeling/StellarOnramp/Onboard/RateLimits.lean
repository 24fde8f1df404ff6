import StellarOnramp.GatewayHttp.Routing
import StellarOnramp.Library.FixedWindows
import StellarOnramp.Library.InsertionMaps
import StellarOnramp.Onboard.Portal

/-! What one address may ask of the portal. A limiter counts the calls of every address in fixed
windows, in one map that is swept when it has grown. Sweeping drops windows that are over, so as
long as the clock does not go back no address can tell whether the map was swept, or who else
called.
-/

namespace StellarOnramp.Onboard

open Attempts FixedWindows InsertionMaps JsText
open StellarOnramp.GatewayHttp (HeaderValue)

-----------------------------------------------------------------------------------------
-- The limiters
-----------------------------------------------------------------------------------------

structure FixedWindowLimiter where
  limit : Nat
  windowMs : Int

def registerLimiter : FixedWindowLimiter := { limit := 10, windowMs := 10 * 60000 }

def loginLimiter : FixedWindowLimiter := { limit := 20, windowMs := 10 * 60000 }

def submitLimiter : FixedWindowLimiter := { limit := 6, windowMs := 10 * 60000 }

def onrampLimiter : FixedWindowLimiter := { limit := 6, windowMs := 10 * 60000 }

/-- Every limiter admits a call in each window, and its windows end. -/
theorem limiters_admit
    : ∀ limiter ∈ [registerLimiter, loginLimiter, submitLimiter, onrampLimiter],
        1 ≤ limiter.limit ∧ 0 < limiter.windowMs := by
  decide

/-- The windows by key, in a map: no key has two. -/
structure Hits where
  entries : List (JsString × Window)
  distinct : (entries.map Prod.fst).Nodup

def Hits.empty : Hits := { entries := [], distinct := List.nodup_nil }

def Hits.set (hits : Hits) (key : JsString) (window : Window) : Hits :=
  { entries := setEntry hits.entries key window, distinct := nodup_setEntry hits.distinct }

/-- Once the map is large, every window that is over leaves it. -/
def Hits.sweep (hits : Hits) (now : Int) : Hits :=
  if 10000 < hits.entries.length then
    {
      entries := hits.entries.filter (fun hit => now < hit.2.resetAt)
      distinct := hits.distinct.sublist (List.filter_sublist.map _)
    }
  else
    hits

/-- The map after a call, and whether the key is over its limit. -/
def FixedWindowLimiter.exceeded (limiter : FixedWindowLimiter) (hits : Hits) (key : JsString)
    (now : Int)
    : Hits × Bool :=
  let hits := hits.sweep now
  let opened := { count := 1, resetAt := now + limiter.windowMs }
  match hits.entries.lookup key with
  | none => (hits.set key opened, false)
  | some cur =>
      if cur.resetAt ≤ now then
        (hits.set key opened, false)
      else
        (hits.set key { cur with count := cur.count + 1 }, limiter.limit < cur.count + 1)

/-- What the limits need of a request, and the clock when it is counted. -/
structure LimitedRequest where
  xForwardedFor : HeaderValue
  remoteAddress : Option JsString
  now : Int

/-- The first hop of the header where there is one, else the socket's address. -/
def clientIp (request : LimitedRequest) : JsString :=
  let fwd :=
    match request.xForwardedFor with
    | .absent => none
    | .one value => some value
    | .many values => values.head?
  match (fwd.bind (fun hops => (hops.splitOn 44).head?)).map trim with
  | some (unit :: first) => unit :: first
  | _ => request.remoteAddress.getD (js "unknown")

def rateLimited (what : JsString) : PortalAccountError where
  status := 429
  code := js "rate_limited"
  message :=
    js "too many " ++ what ++ js " from this address " ++ [0x2014]
      ++ js " try again in a few minutes"

def assertNotRateLimited (limiter : FixedWindowLimiter) (hits : Hits) (request : LimitedRequest)
    (what : JsString)
    : Hits × Except PortalAccountError Unit :=
  let (hits, refused) := limiter.exceeded hits (clientIp request) request.now
  (hits, failIf (refused = true) (rateLimited what))

/-- The requests that come to one limiter, each with its answer. -/
def FixedWindowLimiter.answered (limiter : FixedWindowLimiter) (what : JsString)
    : Hits → List LimitedRequest → List (LimitedRequest × Except PortalAccountError Unit)
  | _, [] => []
  | hits, request :: later =>
      let (hits, answer) := assertNotRateLimited limiter hits request what
      (request, answer) :: limiter.answered what hits later

-----------------------------------------------------------------------------------------
-- One address alone
-----------------------------------------------------------------------------------------

/-- The counting of one address. -/
def FixedWindowLimiter.policy (limiter : FixedWindowLimiter) : Policy where
  limit := limiter.limit
  span := limiter.windowMs

variable {limiter : FixedWindowLimiter} {hits : Hits} {key other : JsString} {now : Int}

/-- A call counts in the window of its key, after the sweep. -/
theorem exceeded_eq
    : limiter.exceeded hits key now
      = ((hits.sweep now).set key
            (limiter.policy.call ((hits.sweep now).entries.lookup key) now).1,
          (limiter.policy.call ((hits.sweep now).entries.lookup key) now).2) := by
  simp only [FixedWindowLimiter.exceeded]
  cases found : (hits.sweep now).entries.lookup key with
  | none => rfl
  | some cur =>
      simp only [Policy.call, FixedWindowLimiter.policy]
      split <;> rfl

/-- The sweep drops windows that are over. -/
theorem openAt_sweep
    : openAt now ((hits.sweep now).entries.lookup key)
      = openAt now (hits.entries.lookup key) := by
  unfold Hits.sweep
  split
  case isFalse => rfl
  case isTrue =>
    simp only [lookup_filter hits.distinct]
    cases hits.entries.lookup key with
    | none => rfl
    | some window =>
        by_cases running : now < window.resetAt <;> simp [openAt, Option.filter_some, running]

/-- The requests of one address, and which of them are refused. -/
def countedFor (address : JsString)
    (answers : List (LimitedRequest × Except PortalAccountError Unit))
    : List (Int × Bool) :=
  (answers.filter (fun entry => clientIp entry.1 = address)).map
    (fun entry => (entry.1.now, !entry.2.isOk))

/-- When the requests of one address come. -/
def momentsOf (address : JsString) (requests : List LimitedRequest) : List Int :=
  (requests.filter (fun request => clientIp request = address)).map LimitedRequest.now

/-- One address is answered as its own counter answers, by induction on the requests. The window
in the map and the window of the counter agree as long as they are open.
-/
theorem countedFor_answered {address what : JsString} {requests : List LimitedRequest}
    {window : Option Window}
    (same
      : ∀ request ∈ requests,
          openAt request.now (hits.entries.lookup address) = openAt request.now window)
    (ordered : requests.Pairwise (fun earlier later => earlier.now ≤ later.now))
    : countedFor address (limiter.answered what hits requests)
      = limiter.policy.log window (momentsOf address requests) := by
  induction requests generalizing hits window with
  | nil => rfl
  | cons request later ih =>
      obtain ⟨here, same⟩ := List.forall_mem_cons.mp same
      obtain ⟨onwards, ordered⟩ := List.pairwise_cons.mp ordered
      have swept := @openAt_sweep hits address request.now
      rw [FixedWindowLimiter.answered, assertNotRateLimited, exceeded_eq]
      by_cases own : clientIp request = address
      · subst own
        have counted := @call_congr limiter.policy _ _ _ _ (swept.trans here) (Int.le_refl _)
        have rest := @ih ((hits.sweep request.now).set (clientIp request)
            (limiter.policy.call window request.now).1)
          (some (limiter.policy.call window request.now).1)
          (fun _ _ => by rw [Hits.set, lookup_setEntry_self]) ordered
        rw [countedFor] at rest
        rw [countedFor, List.filter_cons_of_pos (by simp), List.map_cons, counted, rest,
          momentsOf, momentsOf, List.filter_cons_of_pos (by simp), List.map_cons, Policy.log]
        cases (limiter.policy.call window request.now).2 <;> rfl
      · have rest := @ih ((hits.sweep request.now).set (clientIp request)
            (limiter.policy.call ((hits.sweep request.now).entries.lookup (clientIp request))
              request.now).1)
          window
          (fun other member => by
            rw [Hits.set, lookup_setEntry_of_ne (Ne.symm own),
              openAt_congr swept (onwards other member), same other member])
          ordered
        rw [countedFor] at rest
        rw [countedFor, List.filter_cons_of_neg (by simpa using own), rest, momentsOf, momentsOf,
          List.filter_cons_of_neg (by simpa using own)]

-----------------------------------------------------------------------------------------
-- What passes
-----------------------------------------------------------------------------------------

/-- The requests of an address that pass in a span of one window's length. -/
def passedIn (limiter : FixedWindowLimiter) (address : JsString) (start : Int)
    (answers : List (LimitedRequest × Except PortalAccountError Unit))
    : List (LimitedRequest × Except PortalAccountError Unit) :=
  answers.filter (fun entry =>
    clientIp entry.1 = address ∧ entry.2.isOk = true
      ∧ start ≤ entry.1.now ∧ entry.1.now < start + limiter.windowMs)

/-- Neither the sweeps nor the requests of others change what an address is answered. -/
theorem answered_as_if_alone (limiter : FixedWindowLimiter) (what address : JsString)
    {requests : List LimitedRequest}
    (ordered : requests.Pairwise (fun earlier later => earlier.now ≤ later.now))
    : countedFor address (limiter.answered what .empty requests)
      = limiter.policy.log none (momentsOf address requests) :=
  countedFor_answered (fun _ _ => rfl) ordered

/-- In no span of a window's length do as many requests of one address pass as two windows
admit, whoever else calls and whenever the map is swept.
-/
theorem passed_in_any_span (limiter : FixedWindowLimiter) (what address : JsString) (start : Int)
    {requests : List LimitedRequest}
    (ordered : requests.Pairwise (fun earlier later => earlier.now ≤ later.now))
    : (passedIn limiter address start (limiter.answered what .empty requests)).length
      < 2 * max limiter.limit 1 := by
  have moments : (momentsOf address requests).Pairwise (· ≤ ·) :=
    (ordered.sublist List.filter_sublist).map _ fun _ _ => id
  have alone
      : countedFor address (limiter.answered what .empty requests)
        = limiter.policy.log none (momentsOf address requests) :=
    countedFor_answered (fun _ _ => rfl) ordered
  have counted := @passedFrom_lt limiter.policy none start _
    (fun _ member => absurd member (Option.not_mem_none _)) moments
  rw [Policy.passedFrom, ← alone, countedFor, List.filter_map, List.length_map,
    List.filter_filter] at counted
  refine (congrArg List.length (List.filter_congr fun entry _ => ?_)).trans_lt counted
  simp only [Function.comp_apply, Bool.not_eq_eq_eq_not, Bool.not_false, ← Bool.decide_and,
    decide_eq_decide]
  tauto

/-- Requests of one address around the end of its first window, with one of another address
between them.
-/
def sampleRequests : List LimitedRequest :=
  let request (address : String) (now : Int) : LimitedRequest :=
    { xForwardedFor := .one (js address), remoteAddress := none, now }
  request "203.0.113.7" 0 :: List.replicate 5 (request "203.0.113.7, 10.0.0.1" 599999)
    ++ request "203.0.113.8" 599999 :: List.replicate 7 (request "203.0.113.7" 600000)

theorem answered_as_if_alone_sample
    : countedFor (js "203.0.113.7")
          (submitLimiter.answered (js "verification runs") .empty sampleRequests)
      = submitLimiter.policy.log none (momentsOf (js "203.0.113.7") sampleRequests) :=
  answered_as_if_alone submitLimiter _ _ (by decide +kernel)

theorem passed_in_any_span_sample
    : (passedIn submitLimiter (js "203.0.113.7") 1
          (submitLimiter.answered (js "verification runs") .empty sampleRequests)).length
      < 2 * max 6 1 :=
  passed_in_any_span submitLimiter _ _ 1 (by decide +kernel)

/-- The bound is met: five pass before the end of the first window and six after it. -/
example
    : (passedIn submitLimiter (js "203.0.113.7") 1
          (submitLimiter.answered (js "verification runs") .empty sampleRequests)).length
      = 11 := by
  decide +kernel

end StellarOnramp.Onboard
