import StellarOnramp.Gateway.ClaimDerivation
import StellarOnramp.GatewayHttp.Handlers
import StellarOnramp.Library.Transitions

/-! The running server: requests in any number of stages at once, the two stores they share, and
the calls that change the stores from outside.
-/

namespace StellarOnramp.GatewayHttp

open Attempts JsText Octets Transitions
open StellarOnramp.Identity StellarOnramp.Gateway

-----------------------------------------------------------------------------------------
-- Calls
-----------------------------------------------------------------------------------------

/-- A request that was routed and whose caller passed the route's authentication. -/
structure Admitted where
  route : Route
  requestId : JsString
  params : RouteParams
  rawBody : Bytes
  auth : Option AuthenticatedRequest

/-- How far a request has come. -/
inductive Progress where
  | admitted
  /-- The session is stored; its applicant and its token are awaited. -/
  | onboarding (opened : OpenedSession)
  /-- The allocator is awaited. -/
  | issuing (prepared : PreparedIssuance)
  | answered (response : Response)

inductive Call where
  /-- Answered before any handler was reached. -/
  | refused (response : Response)
  | running (request : Admitted) (progress : Progress)

structure GatewayState where
  sessions : SessionStore
  /-- The revoked indexes, in the order of their revocation. -/
  revoked : List Number
  calls : Nat → Option Call

/-- The answer to a call, if it has one. -/
def GatewayState.answer (state : GatewayState) (id : Nat) : Option (Admitted × Response) :=
  match state.calls id with
  | some (.running request (.answered response)) => some (request, response)
  | _ => none

/-- The request of a call that waits for its handler. -/
def GatewayState.waiting (state : GatewayState) (id : Nat) : Option Admitted :=
  match state.calls id with
  | some (.running request .admitted) => some request
  | _ => none

theorem GatewayState.answer_eq_some {state : GatewayState} {id : Nat} {request : Admitted}
    {response : Response}
    : state.answer id = some (request, response)
      ↔ state.calls id = some (.running request (.answered response)) := by
  unfold GatewayState.answer
  split
  case h_1 found => simp [found]
  case h_2 other =>
    refine iff_of_false nofun ?_
    exact fun found => other _ _ found

theorem GatewayState.waiting_eq_some {state : GatewayState} {id : Nat} {request : Admitted}
    : state.waiting id = some request ↔ state.calls id = some (.running request .admitted) := by
  unfold GatewayState.waiting
  split
  case h_1 found => simp [found]
  case h_2 other =>
    refine iff_of_false nofun ?_
    exact fun found => other _ found

def GatewayState.initial : GatewayState where
  sessions _ := none
  revoked := []
  calls _ := none

-----------------------------------------------------------------------------------------
-- Events
-----------------------------------------------------------------------------------------

/-- What a seam throws; the transport's own errors are not a seam's. -/
inductive SeamFailure where
  | kycProvider
  | chain
  | unimplemented (what : JsString)
  | other

def SeamFailure.thrown : SeamFailure → Thrown
  | kycProvider => .kycProvider
  | chain => .chain
  | unimplemented what => .unimplemented what
  | other => .other

/-- A request whose body is in, with the clock and the id that was drawn for it. -/
structure Arrival where
  request : HttpRequest
  freshId : JsString
  now : Number

/-- The clock and the draws of the generators while a handler runs. -/
structure Moment where
  now : Number
  sessionId : JsString
  salt : Bytes

/-- What happens to one call. -/
inductive CallEvent where
  | received (arrival : Arrival)
  | dispatched (moment : Moment)
  | onboarded (applicant token : Except SeamFailure JsString)
  | allocated (index : Except SeamFailure (Option Number))

/-- The provider's report behind a verdict, and the instant of the verdict. -/
structure Report where
  status : KycStatus
  time : Option Int
  deriving DecidableEq

inductive Event where
  | call (id : Nat) (event : CallEvent)
  /-- The store does not see the report. -/
  | setStatus (sessionId : JsString) (status : SessionStatus) (report : Report)
  | revoke (index : Number)
  | clear (index : Number)

-----------------------------------------------------------------------------------------
-- Steps
-----------------------------------------------------------------------------------------

/-- What was thrown becomes the answer. -/
def answerOf (requestId : JsString) (outcome : Handling Response) : Response :=
  match outcome with
  | .ok response => response
  | .error thrown => writeError requestId (toHttpError thrown)

namespace GatewayServer

variable (server : GatewayServer)

def badEncoding : HttpError :=
  {
    status := 400
    code := js "bad_encoding"
    retriable := false
    message := js "malformed percent-encoding"
  }

def noSuchRoute : HttpError :=
  { status := 404, code := js "not_found", retriable := false, message := js "no such route" }

def methodNotAllowed : HttpError :=
  {
    status := 405
    code := js "method_not_allowed"
    retriable := false
    message := js "method not allowed"
  }

/-- `allow` lists the methods of the path. -/
def allowHeader : List JsString → JsString
  | [] => []
  | [method] => method
  | method :: rest => method ++ js ", " ++ allowHeader rest

/-- A request up to and with the authentication of its route. -/
def receive (arrival : Arrival) : Call :=
  let request := arrival.request
  let requestId := resolveRequestId request arrival.freshId
  if assertValidPathEncoding request.pathOf = false then
    .refused (writeError requestId badEncoding)
  else
    match captureBody request with
    | .error thrown => .refused (writeError requestId (toHttpError thrown))
    | .ok rawBody =>
        match matchRoute routes request.methodOf request.pathOf with
        | .noPath => .refused (writeError requestId noSuchRoute)
        | .methodNotAllowed allow =>
            .refused
              { writeError requestId methodNotAllowed with allow := some (allowHeader allow) }
        | .ok route params =>
            match
              enforceRouteAuth server.libraries.tokens server.libraries.parseJson
                server.config.auth route.auth request.authorization arrival.now
            with
            | .error thrown => .refused (writeError requestId (toHttpError thrown))
            | .ok auth => .running { route, requestId, params, rawBody, auth } .admitted

/-- The body of a route that takes one. -/
def parseBody (request : Admitted) : Handling (Option Json.Value) :=
  if request.route.jsonBody then
    (parseJsonObject server.libraries.parseJson request.rawBody).map some
  else
    .ok none

def Admitted.context (request : Admitted) (json : Option Json.Value) : RouteContext :=
  { requestId := request.requestId, params := request.params, json, auth := request.auth }

/-- A document, or what was thrown instead. -/
def answerDocument (request : Admitted) (document : Handling Json.Value) : Progress :=
  .answered
    (answerOf request.requestId (document.map (writeJson request.requestId 200)))

/-- A handler from its start to where it waits or answers. -/
def handle (state : GatewayState) (request : Admitted) (context : RouteContext)
    (moment : Moment)
    : SessionStore × Progress :=
  match request.route.handler with
  | .wellKnown => (state.sessions, answerDocument request server.wellKnownHandler)
  | .schema => (state.sessions, answerDocument request (schemaHandler context))
  | .statusList =>
      (state.sessions,
        answerDocument request (server.statusListHandler state.revoked context moment.now))
  | .healthz => (state.sessions, answerDocument request (.ok healthzHandler))
  | .readyz => (state.sessions, answerDocument request (.ok server.readyzHandler))
  | .session =>
      match sessionHandler context with
      | .error thrown =>
          (state.sessions, .answered (answerOf request.requestId (.error thrown)))
      | .ok walletCAddr =>
          (state.sessions.create moment.sessionId walletCAddr moment.now,
            .onboarding { sessionId := moment.sessionId, now := moment.now })
  | .issue =>
      (state.sessions,
        match server.issueHandler state.sessions context moment.now moment.salt with
        | .error thrown => .answered (answerOf request.requestId (.error thrown))
        | .ok prepared => .issuing prepared)

/-- The body is parsed, then the handler runs. -/
def dispatch (state : GatewayState) (request : Admitted) (moment : Moment)
    : SessionStore × Progress :=
  match server.parseBody request with
  | .error thrown => (state.sessions, .answered (answerOf request.requestId (.error thrown)))
  | .ok json => server.handle state request (Admitted.context request json) moment

/-- The answer of a seam. -/
def ofSeam {α : Type} (answer : Except SeamFailure α) : Handling α :=
  answer.mapError SeamFailure.thrown

/-- The end of a session request: the applicant first, then the token. -/
def finishSession (requestId : JsString) (opened : OpenedSession)
    (applicant token : Except SeamFailure JsString)
    : Handling Response := do
  let _ ← ofSeam applicant
  let sessionToken ← ofSeam token
  .ok (writeJson requestId 201 (sessionBody opened sessionToken))

/-- The end of an issue request. -/
def finishIssue (requestId : JsString) (prepared : PreparedIssuance)
    (index : Except SeamFailure (Option Number))
    : Handling Response := do
  let allocated ← ofSeam index
  let issued ←
    ofIssuing
      (completeIssuance server.libraries.bbs server.libraries.sha256 prepared allocated)
  .ok (writeJson requestId 201 (issuedBody issued))

/-- What an event makes of a call, and of the sessions. -/
def advance (state : GatewayState) : Option Call → CallEvent → Option (SessionStore × Call)
  | none, .received arrival => some (state.sessions, server.receive arrival)
  | some (.running request .admitted), .dispatched moment =>
      let outcome := server.dispatch state request moment
      some (outcome.1, .running request outcome.2)
  | some (.running request (.onboarding opened)), .onboarded applicant token =>
      some
        (state.sessions,
          .running request
            (.answered
              (answerOf request.requestId
                (finishSession request.requestId opened applicant token))))
  | some (.running request (.issuing prepared)), .allocated index =>
      some
        (state.sessions,
          .running request
            (.answered
              (answerOf request.requestId (server.finishIssue request.requestId prepared index))))
  | _, _ => none

def step (state : GatewayState) : Event → Option GatewayState
  | .call id event =>
      (server.advance state (state.calls id) event).map
        (fun outcome =>
          {
            state with
            sessions := outcome.1
            calls := Function.update state.calls id (some outcome.2)
          })
  | .setStatus sessionId status _ =>
      (state.sessions.setStatus sessionId status).map
        (fun sessions => { state with sessions })
  | .revoke index =>
      some
        {
          state with
          revoked := if index ∈ state.revoked then state.revoked else state.revoked ++ [index]
        }
  | .clear index => some { state with revoked := state.revoked.filter (fun other => other ≠ index) }

/-- The server: an event that cannot happen in a state changes nothing. -/
def machine : Machine GatewayState Event where
  step := server.step

-----------------------------------------------------------------------------------------
-- One event
-----------------------------------------------------------------------------------------

/-- The sessions and the call after an event of the call; an event that cannot happen changes
neither.
-/
def outcome (state : GatewayState) (call : Option Call) (event : CallEvent)
    : SessionStore × Option Call :=
  match server.advance state call event with
  | some (sessions, written) => (sessions, some written)
  | none => (state.sessions, call)

variable {server}

theorem next_call (state : GatewayState) (id : Nat) (event : CallEvent)
    : server.machine.next state (.call id event)
      = {
          sessions := (server.outcome state (state.calls id) event).1
          revoked := state.revoked
          calls :=
            Function.update state.calls id (server.outcome state (state.calls id) event).2
        } := by
  unfold outcome
  cases advanced : server.advance state (state.calls id) event with
  | none =>
      have refused : server.machine.step state (.call id event) = none := by
        change (server.advance state (state.calls id) event).map _ = none
        rw [advanced, Option.map_none]
      rw [Machine.next_of_refused refused]
      simp
  | some written =>
      apply Machine.next_of_step
      change (server.advance state (state.calls id) event).map _ = some _
      rw [advanced, Option.map_some]

theorem next_setStatus (state : GatewayState) (sessionId : JsString) (status : SessionStatus)
    (report : Report)
    : server.machine.next state (.setStatus sessionId status report)
      = {
          state with
          sessions := (state.sessions.setStatus sessionId status).getD state.sessions
        } := by
  change ((state.sessions.setStatus sessionId status).map _).getD state = _
  cases state.sessions.setStatus sessionId status <;> rfl

/-- Only an event of a call writes the call. -/
theorem calls_next {state : GatewayState} {event : Event} {id : Nat} {call : Option Call}
    (after : (server.machine.next state event).calls id = call)
    (changed : state.calls id ≠ call)
    : ∃ here sessions written,
        event = .call id here
        ∧ server.advance state (state.calls id) here = some (sessions, written)
        ∧ call = some written := by
  cases accepted : server.machine.step state event with
  | none =>
      rw [Machine.next_of_refused accepted] at after
      exact absurd after changed
  | some next =>
      rw [Machine.next_of_step accepted] at after
      cases event with
      | call other here =>
          obtain ⟨⟨sessions, written⟩, advanced, rfl⟩ := Option.map_eq_some_iff.mp accepted
          change Function.update state.calls other (some written) id = call at after
          by_cases same : id = other
          · subst same
            rw [Function.update_self] at after
            exact ⟨here, sessions, written, rfl, advanced, after.symm⟩
          · rw [Function.update_of_ne same] at after
            exact absurd after changed
      | setStatus sessionId status report =>
          obtain ⟨sessions, -, rfl⟩ := Option.map_eq_some_iff.mp accepted
          exact absurd after changed
      | revoke index =>
          cases accepted
          exact absurd after changed
      | clear index =>
          cases accepted
          exact absurd after changed

end GatewayServer

end StellarOnramp.GatewayHttp
