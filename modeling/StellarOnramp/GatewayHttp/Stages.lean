import StellarOnramp.GatewayHttp.App

/-! What each stage of an issue request has passed: the token when it was received, the gates
when it was dispatched, and the signature when it was answered.
-/

namespace StellarOnramp.GatewayHttp

open Attempts JsText Octets Transitions
open StellarOnramp.Identity StellarOnramp.Gateway

-----------------------------------------------------------------------------------------
-- Refusals
-----------------------------------------------------------------------------------------

/-- What was thrown is answered with an error status. -/
def Refused (thrown : Thrown) : Prop := 400 ≤ (toHttpError thrown).status

/-- An answer that is no error is the handler's own. -/
theorem eq_ok_of_answerOf {requestId : JsString} {outcome : Handling Response}
    {response : Response} (refuses : FailsWith Refused outcome)
    (answered : answerOf requestId outcome = response) (fine : response.status < 400)
    : outcome = .ok response := by
  subst answered
  cases outcome with
  | ok response => rfl
  | error thrown => exact absurd fine (not_lt.mpr (refuses thrown rfl))

theorem ofSeam_refuses {α : Type} (answer : Except SeamFailure α)
    : FailsWith Refused (GatewayServer.ofSeam answer) := by
  intro thrown failed
  cases answer with
  | ok value => cases failed
  | error failure =>
      obtain rfl := Except.error.inj failed
      cases failure <;> simp [Refused, toHttpError, SeamFailure.thrown]

theorem parseJsonObject_refuses (parseJson : Bytes → Option Json.Value) (raw : Bytes)
    : FailsWith Refused (parseJsonObject parseJson raw) := by
  refine (failsWith_failIf (by simp [Refused, toHttpError, invalidJson])).bind fun _ => ?_
  split
  case h_1 => exact failsWith_error (by simp [Refused, toHttpError, invalidJson])
  case h_2 value _ =>
    exact (failsWith_failIf (by simp [Refused, toHttpError, invalidJson])).bind
      fun _ => failsWith_ok value

theorem requireString_refuses (body : Json.Value) (key : JsString)
    : FailsWith Refused (requireString body key) := by
  unfold requireString
  split
  case h_1 value _ =>
    exact (failsWith_failIf (by simp [Refused, toHttpError, missingField])).bind
      fun _ => failsWith_ok value
  case h_2 => exact failsWith_error (by simp [Refused, toHttpError, missingField])

theorem optionalU32_refuses (body : Json.Value) (key : JsString)
    : FailsWith Refused (optionalU32 body key) := by
  unfold optionalU32
  split
  case h_1 => exact failsWith_ok none
  case h_2 value _ =>
    exact (failsWith_failIf (by simp [Refused, toHttpError, invalidField])).bind
      fun _ => failsWith_ok (some value)
  case h_3 => exact failsWith_error (by simp [Refused, toHttpError, invalidField])

theorem readClaimSet_refuses (body : Json.Value) : FailsWith Refused (readClaimSet body) := by
  have read (field : ClaimName) : FailsWith Refused (readClaim body field) := by
    unfold readClaim
    split
    case h_1 value _ => exact failsWith_ok value
    case h_2 => exact failsWith_error (by simp [Refused, toHttpError, invalidField])
  exact (read .over18).bind fun _ => (read .over21).bind fun _ =>
    (read .notSanctioned).bind fun _ => (read .notPep).bind fun _ =>
      (read .jurisdictionOk).bind fun _ => (read .livenessOk).bind fun _ => failsWith_ok _

theorem ofIssuing_refuses {α : Type} (issuing : Issuing α)
    : FailsWith Refused (ofIssuing issuing) := by
  intro thrown failed
  cases issuing with
  | ok value => cases failed
  | error failure =>
      obtain rfl := Except.error.inj failed
      cases failure <;> simp [Refused, toHttpError]

theorem assertSessionSubjectBinding_refuses (auth : Option AuthenticatedRequest)
    (addressed : JsString)
    : FailsWith Refused (assertSessionSubjectBinding auth addressed) := by
  unfold assertSessionSubjectBinding
  split
  case h_1 => exact failsWith_error (by simp [Refused, toHttpError])
  case h_2 caller =>
    exact (failsWith_failIf (by simp [Refused, toHttpError])).bind
      fun _ => failsWith_ok caller.subject

theorem assertApproved_refuses (sessions : SessionStore) (sessionId : JsString)
    : FailsWith Refused (sessions.assertApproved sessionId) := by
  unfold SessionStore.assertApproved
  split
  case h_1 => exact failsWith_error (by simp [Refused, toHttpError])
  case h_2 => exact failsWith_failIf (by simp [Refused, toHttpError])

namespace GatewayServer

variable {server : GatewayServer}

theorem issueHandler_refuses (sessions : SessionStore) (context : RouteContext) (now : Number)
    (salt : Bytes)
    : FailsWith Refused (server.issueHandler sessions context now salt) := by
  refine (requireString_refuses _ _).bind fun sessionId => ?_
  split
  case h_1 => exact failsWith_error (by simp [Refused, toHttpError, unknownSession])
  case h_2 session _ =>
    exact (assertSessionSubjectBinding_refuses _ _).bind fun _ =>
      (assertApproved_refuses _ _).bind fun _ =>
        (readClaimSet_refuses _).bind fun _ =>
          (optionalU32_refuses _ _).bind fun _ => ofIssuing_refuses _

theorem parseBody_refuses (request : Admitted) : FailsWith Refused (server.parseBody request) := by
  unfold parseBody
  split
  case isTrue =>
    intro thrown failed
    cases parsed : parseJsonObject server.libraries.parseJson request.rawBody with
    | ok json => simp [parsed, Except.map] at failed
    | error failure =>
        rw [parsed] at failed
        obtain rfl := Except.error.inj failed
        exact parseJsonObject_refuses _ _ _ parsed
  case isFalse => exact failsWith_ok none

-----------------------------------------------------------------------------------------
-- Received
-----------------------------------------------------------------------------------------

/-- A request that was admitted on arrival. -/
structure Received (server : GatewayServer) (arrival : Arrival) (request : Admitted) : Prop where
  encoded : assertValidPathEncoding arrival.request.pathOf = true
  captured : captureBody arrival.request = .ok request.rawBody
  matched
    : matchRoute routes arrival.request.methodOf arrival.request.pathOf
      = .ok request.route request.params
  authenticated
    : enforceRouteAuth server.libraries.tokens server.libraries.parseJson server.config.auth
        request.route.auth arrival.request.authorization arrival.now
      = .ok request.auth
  identified : request.requestId = resolveRequestId arrival.request arrival.freshId

theorem receive_eq_running {arrival : Arrival} {request : Admitted} {progress : Progress}
    : server.receive arrival = .running request progress
      ↔ progress = .admitted ∧ server.Received arrival request := by
  constructor
  · intro received
    unfold receive at received
    dsimp only at received
    split at received
    case isTrue => cases received
    case isFalse encoded =>
      split at received
      case h_1 => cases received
      case h_2 rawBody captured =>
        split at received
        case h_1 => cases received
        case h_2 => cases received
        case h_3 route params matched =>
          split at received
          case h_1 => cases received
          case h_2 auth authenticated =>
            cases received
            refine ⟨rfl, ?_⟩
            exact {
              encoded := Bool.eq_true_of_not_eq_false encoded
              captured
              matched
              authenticated
              identified := rfl
            }
  · rintro ⟨rfl, received⟩
    obtain ⟨encoded, captured, matched, authenticated, identified⟩ := received
    have open_path : ¬ assertValidPathEncoding arrival.request.pathOf = false := by
      simp [encoded]
    unfold receive
    dsimp only
    rw [if_neg open_path, captured, matched]
    dsimp only
    rw [authenticated, ← identified]

/-- The only route to the issue handler demands a session. -/
theorem auth_of_issue {route : Route} (member : route ∈ routes)
    (issue : route.handler = .issue)
    : route.auth = .session := by
  simp only [routes, List.mem_cons, List.not_mem_nil, or_false] at member
  rcases member with rfl | rfl | rfl | rfl | rfl | rfl | rfl <;> first | rfl | cases issue

/-- An issue request has an object for a body. -/
theorem Received.body {arrival : Arrival} {request : Admitted} {json : Option Json.Value}
    (received : server.Received arrival request) (issue : request.route.handler = .issue)
    (parsed : server.parseBody request = .ok json)
    : ∃ body,
        server.libraries.parseJson request.rawBody = some body ∧ asRecord json = body := by
  have takes : request.route.jsonBody = true := by
    have member := mem_of_matchRoute received.matched
    simp only [routes, List.mem_cons, List.not_mem_nil, or_false] at member
    rcases member with same | same | same | same | same | same | same <;>
      rw [same] at issue ⊢ <;> first | rfl | cases issue
  rw [parseBody, if_pos takes] at parsed
  cases parsedBody : parseJsonObject server.libraries.parseJson request.rawBody with
  | error thrown => simp [parsedBody, Except.map] at parsed
  | ok value =>
      rw [parsedBody] at parsed
      cases parsed
      obtain ⟨-, rest⟩ := failIf_bind_eq_ok.mp parsedBody
      split at rest
      case h_1 => cases rest
      case h_2 body known =>
        obtain ⟨object, same⟩ := failIf_bind_eq_ok.mp rest
        cases same
        refine ⟨value, known, ?_⟩
        cases value <;> first | rfl | exact absurd rfl object

/-- On the issue route the caller's token verified on arrival. -/
theorem Received.caller {arrival : Arrival} {request : Admitted}
    (received : server.Received arrival request) (issue : request.route.handler = .issue)
    : ∃ caller,
        request.auth = some caller
        ∧ BearerVerified server.libraries.tokens server.libraries.parseJson server.config.auth
            arrival.request.authorization arrival.now caller.subject := by
  have authenticated := received.authenticated
  rw [auth_of_issue (mem_of_matchRoute received.matched) issue] at authenticated
  exact enforceRouteAuth_session authenticated

-----------------------------------------------------------------------------------------
-- Dispatched
-----------------------------------------------------------------------------------------

/-- An issue request that passed its gates. -/
structure PassedGates (server : GatewayServer) (sessions : SessionStore) (context : RouteContext)
    (now : Number) (sessionId : JsString) (session : SessionRecord) (claims : ClaimSet)
    (prepared : PreparedIssuance)
    : Prop where
  named : requireString (asRecord context.json) (js "sessionId") = .ok sessionId
  stored : sessions sessionId = some session
  owned : context.auth = some { subject := session.walletCAddr }
  approved : session.status = .approved
  read : readClaimSet (asRecord context.json) = .ok claims
  prepared
    : ∃ expiresAt,
        Prepared server.libraries.sha256
          (server.issueRequest sessionId session claims now expiresAt) prepared

/-- Witness: invert the gates in source order. -/
theorem issueHandler_eq_ok {sessions : SessionStore} {context : RouteContext} {now : Number}
    {salt : Bytes} {prepared : PreparedIssuance}
    (passed : server.issueHandler sessions context now salt = .ok prepared)
    : ∃ sessionId session claims,
        server.PassedGates sessions context now sessionId session claims prepared := by
  obtain ⟨sessionId, named, passed⟩ := bind_eq_ok.mp passed
  split at passed
  case h_1 => cases passed
  case h_2 session stored =>
    obtain ⟨subject, bound, passed⟩ := bind_eq_ok.mp passed
    obtain ⟨_, approved, passed⟩ := bind_eq_ok.mp passed
    obtain ⟨claims, read, passed⟩ := bind_eq_ok.mp passed
    obtain ⟨expiresAt, -, passed⟩ := bind_eq_ok.mp passed
    refine ⟨sessionId, session, claims, ?_⟩
    exact {
      named
      stored
      owned := (assertSessionSubjectBinding_eq_ok bound).2
      approved := (SessionStore.assertApproved_eq_ok stored).mp approved
      read
      prepared := ⟨_, prepareIssuance_eq_ok (ofIssuing_eq_ok.mp passed)⟩
    }

/-- A handler that waits for the allocator issues, one that waits for a token opens a session,
and none goes back to its start.
-/
structure Dispatched (server : GatewayServer) (state : GatewayState) (request : Admitted)
    (moment : Moment) (progress : Progress)
    : Prop where
  moved : progress ≠ .admitted
  onboarding : ∀ opened, progress = .onboarding opened → request.route.handler = .session
  issuing
    : ∀ prepared,
        progress = .issuing prepared →
          request.route.handler = .issue
          ∧ ∃ json,
              server.parseBody request = .ok json
              ∧ server.issueHandler state.sessions (Admitted.context request json) moment.now
                  moment.salt
                = .ok prepared

theorem dispatch_progress {state : GatewayState} {request : Admitted} {moment : Moment}
    {progress : Progress} (dispatched : (server.dispatch state request moment).2 = progress)
    : server.Dispatched state request moment progress := by
  subst dispatched
  unfold dispatch
  split
  case h_1 => constructor <;> simp
  case h_2 json parsed =>
    unfold handle
    split
    case h_6 session =>
      split
      case h_1 => constructor <;> simp
      case h_2 => constructor <;> simp [session]
    case h_7 issue =>
      dsimp only
      split
      case h_1 => constructor <;> simp
      case h_2 prepared passed =>
        refine ⟨by simp, by simp, ?_⟩
        rintro _ ⟨⟩
        exact ⟨issue, json, parsed, passed⟩
    all_goals constructor <;> simp [answerDocument]

/-- An issue request that is answered at once is answered with an error. -/
theorem dispatch_answered {state : GatewayState} {request : Admitted} {moment : Moment}
    {response : Response} (issue : request.route.handler = .issue)
    (dispatched : (server.dispatch state request moment).2 = .answered response)
    : 400 ≤ response.status := by
  unfold dispatch at dispatched
  split at dispatched
  case h_1 thrown failed =>
    cases dispatched
    exact parseBody_refuses request _ failed
  case h_2 json parsed =>
    unfold handle at dispatched
    simp only [issue] at dispatched
    split at dispatched
    case h_1 thrown failed =>
      cases dispatched
      exact issueHandler_refuses _ _ _ _ _ failed
    case h_2 => cases dispatched

-----------------------------------------------------------------------------------------
-- Answered
-----------------------------------------------------------------------------------------

/-- A created answer to an issue request carries an issued credential. Witness: invert the end
of the request; everything thrown there is answered with an error.
-/
theorem finishIssue_created {requestId : JsString} {prepared : PreparedIssuance}
    {index : Except SeamFailure (Option Number)} {response : Response}
    (answered : answerOf requestId (server.finishIssue requestId prepared index) = response)
    (created : response.status = 201)
    : ∃ drawn issued,
        index = .ok (some drawn)
        ∧ Completed server.libraries.bbs server.libraries.sha256 prepared drawn issued
        ∧ response = writeJson requestId 201 (issuedBody issued) := by
  have refuses : FailsWith Refused (server.finishIssue requestId prepared index) :=
    (ofSeam_refuses index).bind fun _ => (ofIssuing_refuses _).bind fun _ => failsWith_ok _
  obtain ⟨allocated, seam, rest⟩ := bind_eq_ok.mp (eq_ok_of_answerOf refuses answered (by omega))
  obtain ⟨issued, issuing, written⟩ := bind_eq_ok.mp rest
  obtain ⟨drawn, rfl, completed⟩ := completeIssuance_eq_ok (ofIssuing_eq_ok.mp issuing)
  cases index with
  | error failure => cases seam
  | ok answer =>
      cases seam
      exact ⟨drawn, issued, rfl, completed, (Except.ok.inj written).symm⟩

-----------------------------------------------------------------------------------------
-- One event
-----------------------------------------------------------------------------------------

variable {state : GatewayState} {before : Option Call} {event : CallEvent}
  {sessions : SessionStore} {request : Admitted}

/-- The ways in which an event takes a request on. -/
inductive Advances (server : GatewayServer) (state : GatewayState) (request : Admitted)
    : Option Call → CallEvent → Progress → Prop where
  | received {arrival : Arrival} (received : server.Received arrival request)
    : Advances server state request none (.received arrival) .admitted
  | dispatched {moment : Moment} {progress : Progress}
      (dispatched : (server.dispatch state request moment).2 = progress)
    : Advances server state request (some (.running request .admitted)) (.dispatched moment)
        progress
  | onboarded (opened : OpenedSession) (event : CallEvent) (response : Response)
    : Advances server state request (some (.running request (.onboarding opened))) event
        (.answered response)
  | allocated (prepared : PreparedIssuance) (index : Except SeamFailure (Option Number))
    : Advances server state request (some (.running request (.issuing prepared)))
        (.allocated index)
        (.answered
          (answerOf request.requestId (server.finishIssue request.requestId prepared index)))

theorem advances_of_advance {progress : Progress}
    (advanced
      : server.advance state before event = some (sessions, .running request progress))
    : Advances server state request before event progress := by
  unfold advance at advanced
  split at advanced
  case h_1 arrival =>
    obtain ⟨_, running⟩ := Prod.mk.inj (Option.some.inj advanced)
    obtain ⟨rfl, received⟩ := receive_eq_running.mp running
    exact .received received
  case h_2 admitted moment =>
    obtain ⟨_, same⟩ := Prod.mk.inj (Option.some.inj advanced)
    obtain ⟨rfl, dispatched⟩ := Call.running.inj same
    exact .dispatched dispatched
  case h_3 waiting opened applicant token =>
    obtain ⟨_, same⟩ := Prod.mk.inj (Option.some.inj advanced)
    obtain ⟨rfl, rfl⟩ := Call.running.inj same
    exact .onboarded opened _ _
  case h_4 waiting prepared index =>
    obtain ⟨_, same⟩ := Prod.mk.inj (Option.some.inj advanced)
    obtain ⟨rfl, rfl⟩ := Call.running.inj same
    exact .allocated prepared index
  case h_5 => cases advanced

/-- A call is admitted by its arrival. -/
theorem advance_admitted
    (advanced : server.advance state before event = some (sessions, .running request .admitted))
    : ∃ arrival, event = .received arrival ∧ server.Received arrival request := by
  cases advances_of_advance advanced with
  | @received arrival received => exact ⟨arrival, rfl, received⟩
  | dispatched dispatched => exact absurd rfl (dispatch_progress dispatched).moved

/-- A call waits for the allocator when its request has passed the gates. -/
theorem advance_issuing {prepared : PreparedIssuance}
    (advanced
      : server.advance state before event
        = some (sessions, .running request (.issuing prepared)))
    : before = some (.running request .admitted)
      ∧ request.route.handler = .issue
      ∧ ∃ moment json,
          event = .dispatched moment
          ∧ server.parseBody request = .ok json
          ∧ server.issueHandler state.sessions (Admitted.context request json) moment.now
              moment.salt
            = .ok prepared := by
  cases advances_of_advance advanced with
  | @dispatched moment _ dispatched =>
      obtain ⟨issue, json, parsed, passed⟩ := (dispatch_progress dispatched).issuing prepared rfl
      exact ⟨rfl, issue, moment, json, rfl, parsed, passed⟩

/-- Only a session request waits for a token. -/
theorem advance_onboarding {opened : OpenedSession}
    (advanced
      : server.advance state before event
        = some (sessions, .running request (.onboarding opened)))
    : request.route.handler = .session := by
  cases advances_of_advance advanced with
  | dispatched dispatched => exact (dispatch_progress dispatched).onboarding opened rfl

/-- A created answer on the issue route comes from the allocator's answer. -/
theorem advance_created {response : Response} (issue : request.route.handler = .issue)
    (created : response.status = 201)
    (advanced
      : server.advance state before event
        = some (sessions, .running request (.answered response)))
    (sound : ∀ opened, before ≠ some (.running request (.onboarding opened)))
    : ∃ prepared drawn issued,
        before = some (.running request (.issuing prepared))
        ∧ event = .allocated (.ok (some drawn))
        ∧ Completed server.libraries.bbs server.libraries.sha256 prepared drawn issued
        ∧ response = writeJson request.requestId 201 (issuedBody issued) := by
  cases advances_of_advance advanced with
  | dispatched dispatched =>
      have refused := dispatch_answered issue dispatched
      omega
  | onboarded opened => exact absurd rfl (sound opened)
  | allocated prepared index =>
      obtain ⟨drawn, issued, rfl, completed, written⟩ := finishIssue_created rfl created
      exact ⟨prepared, drawn, issued, rfl, rfl, completed, written⟩

end GatewayServer

end StellarOnramp.GatewayHttp
