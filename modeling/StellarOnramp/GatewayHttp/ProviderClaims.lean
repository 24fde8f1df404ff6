import StellarOnramp.GatewayHttp.Authorisation

/-! The booleans of an issued credential, and what the provider reported when the session was
approved.
-/

namespace StellarOnramp.GatewayHttp

open Attempts JsText Octets Transitions
open StellarOnramp.Identity StellarOnramp.Gateway

-----------------------------------------------------------------------------------------
-- What is signed
-----------------------------------------------------------------------------------------

/-- The message of a claim in the credential of an answer. -/
def Response.signedMessage (response : Response) (name : ClaimName) : Option JsString := do
  let credential ← response.body.get (js "credential")
  let messages ← credential.get (js "messages")
  let items ← messages.asArray
  let message ← items[claimIndex name]?
  message.asString

/-- The credential of an answer says that a boolean is true. -/
def Response.SignsTrue (response : Response) (name : ClaimName) : Prop :=
  response.signedMessage name = some (ofOctets name.text ++ js "=true")

instance (response : Response) (name : ClaimName) : Decidable (response.SignsTrue name) := by
  unfold Response.SignsTrue
  infer_instance

theorem signedMessage_issuedBody (requestId : JsString) (status : Nat)
    (issued : IssuedCredential) (name : ClaimName)
    : (writeJson requestId status (GatewayServer.issuedBody issued)).signedMessage name
      = issued.serialized.messages[claimIndex name]? := by
  change
    ((issued.serialized.messages.map Json.Value.string)[claimIndex name]?).bind
        Json.Value.asString
      = _
  rw [List.getElem?_map]
  cases issued.serialized.messages[claimIndex name]? <;> rfl

-----------------------------------------------------------------------------------------
-- What was reported
-----------------------------------------------------------------------------------------

/-- The derivation gives a boolean for a report. -/
def Report.derives (report : Report) (name : ClaimName) : Bool :=
  match deriveClaimSet report.status report.time with
  | .ok claims => claims.value name
  | .error _ => false

/-- The report behind the last approval of a session. -/
def approvalOf (events : List Event) (sessionId : JsString) : Option Report :=
  events.foldl
    (fun latest event =>
      match event with
      | .setStatus other .approved report => if other = sessionId then some report else latest
      | _ => latest)
    none

/-- A report that approved a session was given with an approval of that session. Witness: list
induction from the right.
-/
theorem mem_of_approvalOf {events : List Event} {sessionId : JsString} {report : Report}
    (approved : approvalOf events sessionId = some report)
    : .setStatus sessionId .approved report ∈ events := by
  induction events using List.reverseRecOn with
  | nil => cases approved
  | append_singleton events event ih =>
      rw [approvalOf, List.foldl_append, List.foldl_cons, List.foldl_nil] at approved
      split at approved
      case h_1 other given =>
        split at approved
        case isTrue same =>
          cases approved
          subst same
          exact List.mem_append_right _ (List.mem_singleton.mpr rfl)
        case isFalse => exact List.mem_append_left _ (ih approved)
      case h_2 => exact List.mem_append_left _ (ih approved)

/-- A boolean is true in what the derivation makes of the report that approved a session. -/
def Reported (events : List Event) (sessionId : JsString) (name : ClaimName) : Prop :=
  ∃ report, approvalOf events sessionId = some report ∧ report.derives name = true

namespace GatewayServer

variable {server : GatewayServer} {start : GatewayState} {events : List Event} {id : Nat}
  {request : Admitted} {response : Response}

/-- After some events of a run a request waits for its handler, and its body names a session. -/
structure Waiting (server : GatewayServer) (start : GatewayState) (before : List Event)
    (id : Nat) (request : Admitted) (sessionId : JsString)
    : Prop where
  waiting : (server.machine.run start before).waiting id = some request
  named
    : ∃ json,
        server.parseBody request = .ok json
        ∧ requireString (asRecord json) (js "sessionId") = .ok sessionId

/-- Where the request of an answer was handled: the events before, and the session it named. -/
def HandledAfter (server : GatewayServer) (start : GatewayState) (events : List Event) (id : Nat)
    (request : Admitted) (before : List Event) (sessionId : JsString)
    : Prop :=
  server.Waiting start before id request sessionId
  ∧ ∃ moment after, events = before ++ .call id (.dispatched moment) :: after

/-- Every boolean that a credential signs as true was true in the report that had approved the
session when the request was handled.
-/
def ClaimsReported (server : GatewayServer) (start : GatewayState) (events : List Event)
    (id : Nat) (request : Admitted) (response : Response)
    : Prop :=
  ∃ before sessionId,
    server.HandledAfter start events id request before sessionId
    ∧ ∀ name ∈ booleanClaimNames, response.SignsTrue name → Reported before sessionId name

/-- The body of an issue request asks for no boolean that was not reported. -/
def BodyReported (server : GatewayServer) (request : Admitted) (before : List Event)
    (sessionId : JsString)
    : Prop :=
  ∀ json claims,
    server.parseBody request = .ok json →
    readClaimSet (asRecord json) = .ok claims →
    ∀ name ∈ booleanClaimNames, claims.value name = true → Reported before sessionId name

/-- Every issue request of a run asks, when it is handled, for reported booleans only. -/
def ReportedRun (server : GatewayServer) (start : GatewayState) (events : List Event) : Prop :=
  Machine.Throughout
    (fun before event =>
      ∀ id moment request sessionId,
        event = .call id (.dispatched moment) →
        server.Waiting start before id request sessionId →
        request.route.handler = .issue →
        server.BodyReported request before sessionId)
    [] events

/-- The booleans of the body are the signed ones. -/
theorem IssueHistory.signsTrue_iff
    (history : server.IssueHistory start events id request response) {claims : ClaimSet}
    (read : readClaimSet (asRecord history.json) = .ok claims) {name : ClaimName}
    (boolean : name ∈ booleanClaimNames)
    : response.SignsTrue name ↔ claims.value name = true := by
  obtain ⟨_, _, _, gates⟩ := issueHandler_eq_ok history.passed
  obtain ⟨_, ready⟩ := gates.prepared
  have same := Except.ok.inj (read.symm.trans gates.read)
  have value : history.issued.credential.claims.value name = .boolean (claims.value name) := by
    rw [history.completed.boolean boolean, ready.asked, same]
    rfl
  have message := history.completed.signed.boolean_message value
  rw [Response.SignsTrue, congrArg (Response.signedMessage · name) history.written,
    signedMessage_issuedBody, history.completed.serialized]
  exact message

/-- A created answer signs what its body asks for, so it is reported exactly when the body is. -/
theorem IssueHistory.claimsReported_iff
    (history : server.IssueHistory start events id request response)
    : server.ClaimsReported start events id request response
      ↔ ∃ before sessionId,
          server.HandledAfter start events id request before sessionId
          ∧ server.BodyReported request before sessionId := by
  obtain ⟨_, _, claims, gates⟩ := issueHandler_eq_ok history.passed
  refine exists_congr fun before => exists_congr fun sessionId =>
    and_congr_right fun handled => ?_
  constructor
  · intro reported json other parsed read name boolean asked
    obtain rfl := Except.ok.inj (history.parsed.symm.trans parsed)
    exact reported name boolean ((history.signsTrue_iff read boolean).mpr asked)
  · intro reported name boolean signs
    exact reported history.json claims history.parsed gates.read name boolean
      ((history.signsTrue_iff gates.read boolean).mp signs)

/-- Where the bodies ask for what was reported, the credentials say it. Witness: the request of
the answer waited before it was handled, and its credential signs what its body asks for.
-/
theorem issued_claims_reported_where_bodies_are (reported : server.ReportedRun start events)
    (idle : Idle start)
    (answered : (server.machine.run start events).answer id = some (request, response))
    (issue : request.route.handler = .issue) (created : response.status = 201)
    : server.ClaimsReported start events id request response := by
  obtain ⟨history⟩ := exists_issueHistory idle answered issue created
  obtain ⟨sessionId, session, claims, gates⟩ := issueHandler_eq_ok history.passed
  have waits
      : server.Waiting start
          (history.earlier ++ .call id (.received history.arrival) :: history.between) id request
          sessionId :=
    { waiting := history.waited, named := ⟨history.json, history.parsed, gates.named⟩ }
  have cut
      : events
        = (history.earlier ++ .call id (.received history.arrival) :: history.between)
          ++ .call id (.dispatched history.moment)
            :: (history.waiting ++ .call id (.allocated (.ok (some history.drawn)))
              :: history.later) := by
    rw [List.append_assoc, List.cons_append]
    exact history.split
  rw [ReportedRun, cut] at reported
  exact history.claimsReported_iff.mpr
    ⟨_, sessionId, ⟨waits, _, _, cut⟩, reported.at_split id _ request sessionId rfl waits issue⟩

-----------------------------------------------------------------------------------------
-- A body that asks for more
-----------------------------------------------------------------------------------------

/-- An applicant of seventeen gets a credential that says otherwise. -/
theorem over18_signed_for_a_minor
    : ∃ request response,
        (sampleServer.machine.run .initial (sampleIssuance [2])).answer 2
            = some (request, response)
        ∧ request.route.handler = .issue
        ∧ response.status = 201
        ∧ ¬ sampleServer.ClaimsReported .initial (sampleIssuance [2]) 2 request response := by
  have outcome
      : ((sampleServer.machine.run .initial (sampleIssuance [2])).answer 2).map
            (fun answer =>
              decide
                (answer.1.route.handler = .issue ∧ answer.2.status = 201
                  ∧ answer.2.SignsTrue .over18))
          = some true := by
    decide +kernel
  obtain ⟨⟨request, response⟩, answered, checks⟩ := Option.map_eq_some_iff.mp outcome
  obtain ⟨issue, created, signs⟩ := of_decide_eq_true checks
  refine ⟨request, response, answered, issue, created, ?_⟩
  rintro ⟨before, sessionId, ⟨-, moment, after, cut⟩, reported⟩
  obtain ⟨report, approved, derives⟩ := reported .over18 (by decide) signs
  have given : .setStatus sessionId .approved report ∈ sampleIssuance [2] := by
    rw [cut]
    exact List.mem_append_left _ (mem_of_approvalOf approved)
  have same : report = sampleReport := by
    simp only [sampleIssuance, sampleEvents, List.cons_append, List.nil_append, List.mem_cons,
      reduceCtorEq, Event.setStatus.injEq, true_and, List.not_mem_nil, or_false, false_or] at given
    exact given.2
  rw [same] at derives
  exact absurd derives (by decide +kernel)

/-- A body that asks only for what was reported. -/
theorem bodyReported_sample {request : Admitted} {sessionId : JsString}
    (waits
      : sampleServer.Waiting .initial ((sampleIssuance [3]).take 4) 2 request sessionId)
    : sampleServer.BodyReported request ((sampleIssuance [3]).take 4) sessionId := by
  have arrived
      : ((sampleServer.machine.run .initial ((sampleIssuance [3]).take 4)).waiting 2).map
            (fun request => (request.route.jsonBody, request.rawBody))
          = some (true, [3]) := by
    decide +kernel
  rw [waits.waiting, Option.map_some, Option.some.injEq, Prod.mk.injEq] at arrived
  have parsed : sampleServer.parseBody request = .ok (some (sampleIssueBody false false)) := by
    rw [parseBody, if_pos arrived.1, arrived.2]
    rfl
  obtain ⟨json, parsedJson, named⟩ := waits.named
  obtain rfl := Except.ok.inj (parsed.symm.trans parsedJson)
  obtain rfl : js "session-1" = sessionId := Except.ok.inj named
  intro json claims parsedJson read name boolean asked
  obtain rfl := Except.ok.inj (parsed.symm.trans parsedJson)
  obtain rfl := Except.ok.inj read
  refine ⟨sampleReport, by decide +kernel, ?_⟩
  simp only [booleanClaimNames, List.mem_cons, List.not_mem_nil, or_false] at boolean
  rcases boolean with rfl | rfl | rfl | rfl | rfl | rfl
  case inr.inr.inl => decide +kernel
  all_goals cases asked

/-- The same applicant asks for what the provider reported. -/
theorem issued_claims_reported_for_a_minor
    : ∃ request response,
        response.status = 201
        ∧ sampleServer.ClaimsReported .initial (sampleIssuance [3]) 2 request response := by
  have outcome
      : ((sampleServer.machine.run .initial (sampleIssuance [3])).answer 2).map
            (fun answer =>
              decide (answer.1.route.handler = .issue ∧ answer.2.status = 201))
          = some true := by
    decide +kernel
  obtain ⟨⟨request, response⟩, answered, checks⟩ := Option.map_eq_some_iff.mp outcome
  obtain ⟨issue, created⟩ := of_decide_eq_true checks
  have reported : sampleServer.ReportedRun .initial (sampleIssuance [3]) := by
    refine ⟨?_, ?_, ?_, ?_, ?_, ?_, trivial⟩
    -- Only the second and the fifth event run a handler, and only the latter one that issues.
    · rintro id moment request sessionId ⟨⟩
    · rintro id moment request sessionId ⟨⟩ waits issue
      have opens
          : ((sampleServer.machine.run .initial ((sampleIssuance [3]).take 1)).waiting 1).map
                (fun request => request.route.handler)
              = some .session := by
        decide +kernel
      rw [show (sampleServer.machine.run .initial ((sampleIssuance [3]).take 1)).waiting 1 = _
        from waits.waiting, Option.map_some, issue] at opens
      cases opens
    · rintro id moment request sessionId ⟨⟩
    · rintro id moment request sessionId ⟨⟩
    · rintro id moment request sessionId ⟨⟩ waits issue
      exact bodyReported_sample waits
    · rintro id moment request sessionId ⟨⟩
  exact ⟨request, response, created,
    issued_claims_reported_where_bodies_are reported idle_initial answered issue created⟩

end GatewayServer

end StellarOnramp.GatewayHttp
