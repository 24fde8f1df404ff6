import StellarOnramp.Gateway.PublishResolve
import StellarOnramp.GatewayHttp.IssueHistory

/-! Who gets a credential, and what another wallet's sessions have to do with it: nothing is
issued without a verified token of the session's own wallet, and the verdicts of foreign
sessions are never seen.
-/

namespace StellarOnramp.GatewayHttp

open Attempts JsText Octets Transitions
open StellarOnramp.Identity StellarOnramp.Gateway

-----------------------------------------------------------------------------------------
-- Two stores
-----------------------------------------------------------------------------------------

/-- Two entries of a store that differ at most in the status of another wallet's session. -/
inductive SameSession (wallet : JsString) : Option SessionRecord → Option SessionRecord → Prop
  | same (session : Option SessionRecord) : SameSession wallet session session
  | foreign (session : SessionRecord) (status : SessionStatus)
      (other : session.walletCAddr ≠ wallet)
      : SameSession wallet (some session) (some { session with status })

/-- Two stores that differ only in the statuses of sessions of other wallets. -/
def StoresAgree (wallet : JsString) (left right : SessionStore) : Prop :=
  ∀ sessionId, SameSession wallet (left sessionId) (right sessionId)

theorem StoresAgree.update {wallet sessionId : JsString} {left right : SessionStore}
    (agree : StoresAgree wallet left right) (session : SessionRecord)
    : StoresAgree wallet (Function.update left sessionId (some session))
        (Function.update right sessionId (some session)) := by
  intro other
  by_cases same : other = sessionId
  · subst same
    rw [Function.update_self, Function.update_self]
    exact .same _
  · rw [Function.update_of_ne same, Function.update_of_ne same]
    exact agree other

/-- A verdict makes the two entries equal. -/
theorem StoresAgree.setStatus {wallet sessionId : JsString} {left right : SessionStore}
    (agree : StoresAgree wallet left right) (status : SessionStatus)
    : StoresAgree wallet ((left.setStatus sessionId status).getD left)
        ((right.setStatus sessionId status).getD right) := by
  unfold SessionStore.setStatus
  generalize leftEntry : left sessionId = first
  generalize rightEntry : right sessionId = second
  have entry := agree sessionId
  rw [leftEntry, rightEntry] at entry
  cases entry with
  | same =>
      cases first with
      | none => exact agree
      | some session => exact agree.update _
  | foreign session other => exact agree.update _

-----------------------------------------------------------------------------------------
-- Two calls
-----------------------------------------------------------------------------------------

/-- An issue request whose caller is not the wallet. -/
def Admitted.Foreign (wallet : JsString) (request : Admitted) : Prop :=
  request.route.handler = .issue ∧ request.auth ≠ some { subject := wallet }

/-- Two calls that differ at most in the progress of another wallet's request. -/
inductive SameCall (wallet : JsString) : Option Call → Option Call → Prop
  | same (call : Option Call) : SameCall wallet call call
  | foreign (request : Admitted) (left right : Progress) (other : request.Foreign wallet)
      : SameCall wallet (some (.running request left)) (some (.running request right))

/-- Two states that a wallet cannot tell apart. -/
structure Indistinguishable (wallet : JsString) (left right : GatewayState) : Prop where
  sessions : StoresAgree wallet left.sessions right.sessions
  revoked : left.revoked = right.revoked
  calls : ∀ id, SameCall wallet (left.calls id) (right.calls id)

namespace GatewayServer

variable {server : GatewayServer} {wallet : JsString} {left right : GatewayState}

/-- An event of a foreign request changes its progress only. -/
theorem outcome_foreign {request : Admitted} (foreign : request.Foreign wallet)
    (state : GatewayState) (progress : Progress) (event : CallEvent)
    : ∃ later,
        server.outcome state (some (.running request progress)) event
          = (state.sessions, some (.running request later)) := by
  have stays (moment : Moment) : (server.dispatch state request moment).1 = state.sessions := by
    unfold dispatch
    split
    case h_1 => rfl
    case h_2 =>
      unfold handle
      simp only [foreign.1]
  unfold outcome
  cases progress with
  | admitted =>
      cases event with
      | dispatched moment =>
          refine ⟨(server.dispatch state request moment).2, ?_⟩
          simp only [advance, stays]
      | _ => exact ⟨_, rfl⟩
  | onboarding opened => cases event <;> exact ⟨_, rfl⟩
  | issuing prepared => cases event <;> exact ⟨_, rfl⟩
  | answered response => cases event <;> exact ⟨_, rfl⟩

/-- The gates of a wallet's own request do not see the verdicts of foreign sessions. Witness:
a foreign session is refused before its status is read.
-/
theorem issueHandler_agree {left right : SessionStore} (agree : StoresAgree wallet left right)
    {context : RouteContext} (caller : context.auth = some { subject := wallet }) (now : Number)
    (salt : Bytes)
    : server.issueHandler left context now salt = server.issueHandler right context now salt := by
  unfold issueHandler SessionStore.assertApproved
  refine bind_congr fun sessionId => ?_
  have entry := agree sessionId
  generalize left sessionId = first at entry ⊢
  generalize right sessionId = second at entry ⊢
  cases entry with
  | same => rfl
  | foreign session status other =>
      have refused
          : assertSessionSubjectBinding context.auth session.walletCAddr
            = .error .subjectMismatch := by
        rw [caller]
        exact congrArg (· >>= fun _ => _) (if_pos other.symm)
      dsimp only
      rw [refused]
      rfl

/-- A wallet's own request, or a public one, is handled alike in both states. -/
theorem dispatch_agree (alike : Indistinguishable wallet left right) {request : Admitted}
    (own : ¬ request.Foreign wallet) (moment : Moment)
    : (server.dispatch left request moment).2 = (server.dispatch right request moment).2
      ∧ StoresAgree wallet (server.dispatch left request moment).1
          (server.dispatch right request moment).1 := by
  unfold dispatch
  cases server.parseBody request with
  | error thrown => exact ⟨rfl, alike.sessions⟩
  | ok json =>
      dsimp only
      unfold handle
      split
      case h_3 => exact ⟨by rw [alike.revoked], alike.sessions⟩
      case h_6 =>
        cases sessionHandler (Admitted.context request json) with
        | error thrown => exact ⟨rfl, alike.sessions⟩
        | ok walletCAddr => exact ⟨rfl, alike.sessions.update _⟩
      case h_7 issue =>
        have caller : request.auth = some { subject := wallet } := by
          by_contra other
          exact own ⟨issue, other⟩
        have passed
            : server.issueHandler left.sessions (Admitted.context request json) moment.now
                  moment.salt
                = server.issueHandler right.sessions (Admitted.context request json) moment.now
                  moment.salt :=
          issueHandler_agree alike.sessions caller moment.now moment.salt
        exact ⟨by rw [passed], alike.sessions⟩
      all_goals exact ⟨rfl, alike.sessions⟩

/-- An event of one call keeps its two sides alike. Witness: a foreign request changes only its
own progress; any other is handled alike.
-/
theorem outcome_agree (alike : Indistinguishable wallet left right) {first second : Option Call}
    (calls : SameCall wallet first second) (event : CallEvent)
    : StoresAgree wallet (server.outcome left first event).1 (server.outcome right second event).1
      ∧ SameCall wallet (server.outcome left first event).2
          (server.outcome right second event).2 := by
  cases calls with
  | foreign request leftProgress rightProgress other =>
      obtain ⟨leftLater, leftOutcome⟩ := outcome_foreign other left leftProgress event
      obtain ⟨rightLater, rightOutcome⟩ := outcome_foreign other right rightProgress event
      rw [leftOutcome, rightOutcome]
      exact ⟨alike.sessions, .foreign request leftLater rightLater other⟩
  | same =>
      rcases first with _ | ⟨response⟩ | ⟨request, progress⟩
      · cases event <;> exact ⟨alike.sessions, .same _⟩
      · cases event <;> exact ⟨alike.sessions, .same _⟩
      · by_cases other : request.Foreign wallet
        · obtain ⟨leftLater, leftOutcome⟩ := outcome_foreign other left progress event
          obtain ⟨rightLater, rightOutcome⟩ := outcome_foreign other right progress event
          rw [leftOutcome, rightOutcome]
          exact ⟨alike.sessions, .foreign request leftLater rightLater other⟩
        · cases progress with
          | admitted =>
              cases event with
              | dispatched moment =>
                  obtain ⟨same, agree⟩ := dispatch_agree alike other moment
                  refine ⟨agree, ?_⟩
                  change
                    SameCall wallet (some (.running request (server.dispatch left request moment).2))
                      (some (.running request (server.dispatch right request moment).2))
                  rw [same]
                  exact .same _
              | _ => exact ⟨alike.sessions, .same _⟩
          | _ => cases event <;> exact ⟨alike.sessions, .same _⟩

variable (server) in
/-- Every event keeps two states alike. -/
theorem next_indistinguishable (left right : GatewayState) (event : Event)
    (alike : Indistinguishable wallet left right)
    : Indistinguishable wallet (server.machine.next left event)
        (server.machine.next right event) := by
  cases event with
  | call id event =>
      obtain ⟨sessions, calls⟩ := outcome_agree alike (alike.calls id) event
      rw [next_call, next_call]
      refine ⟨sessions, alike.revoked, ?_⟩
      intro other
      by_cases same : other = id
      · subst same
        simpa only [Function.update_self] using calls
      · simpa only [Function.update_of_ne same] using alike.calls other
  | setStatus sessionId status report =>
      rw [next_setStatus, next_setStatus]
      exact ⟨alike.sessions.setStatus status, alike.revoked, alike.calls⟩
  | revoke index =>
      refine ⟨alike.sessions, ?_, alike.calls⟩
      change (if index ∈ left.revoked then _ else _) = (if index ∈ right.revoked then _ else _)
      rw [alike.revoked]
  | clear index =>
      refine ⟨alike.sessions, ?_, alike.calls⟩
      change left.revoked.filter _ = right.revoked.filter _
      rw [alike.revoked]

-----------------------------------------------------------------------------------------
-- Authorisation
-----------------------------------------------------------------------------------------

/-- What stands behind a created answer: a request whose token verified when it came in, for the
wallet of the named session, which was approved when the request was handled; and a
credential for that wallet.
-/
structure AuthorisedIssue (server : GatewayServer) (start : GatewayState) (events : List Event)
    (id : Nat) (response : Response)
    : Prop where
  authorised
    : ∃ earlier arrival between moment later body sessionId session issued,
        events
            = earlier ++ .call id (.received arrival)
              :: (between ++ .call id (.dispatched moment) :: later)
        ∧ BearerVerified server.libraries.tokens server.libraries.parseJson server.config.auth
            arrival.request.authorization arrival.now session.walletCAddr
        ∧ captureBody arrival.request = .ok body
        ∧ (∃ json,
            server.libraries.parseJson body = some json
            ∧ requireString json (js "sessionId") = .ok sessionId)
        ∧ (server.machine.run start
                (earlier ++ .call id (.received arrival) :: between)).sessions sessionId
            = some session
        ∧ session.status = .approved
        ∧ response.body = issuedBody issued
        ∧ issued.serialized = serializeCredential issued.credential
        ∧ computeSubjectBinding server.libraries.sha256 session.walletCAddr
              issued.subjectBindingSalt
            = .ok issued.credential.claims.subjectBinding

/-- Witness: for the first part the history of the answer; for the second induction over the
run, each event of which keeps the two states alike.
-/
theorem issue_requires_own_approved_session (server : GatewayServer)
    : (∀ start events id request response,
          Idle start →
          (server.machine.run start events).answer id = some (request, response) →
          request.route.handler = .issue →
          response.status = 201 →
          server.AuthorisedIssue start events id response)
      ∧ ∀ wallet (left right : GatewayState) events id call,
          StoresAgree wallet left.sessions right.sessions →
          left.revoked = right.revoked →
          left.calls = right.calls →
          (server.machine.run left events).calls id = some call →
          (∀ request progress, call = .running request progress → ¬ request.Foreign wallet) →
          (server.machine.run right events).calls id = some call := by
  constructor
  · intro start events id request response idle answered issue created
    obtain ⟨history⟩ := exists_issueHistory idle answered issue created
    obtain ⟨sessionId, session, claims, gates⟩ := issueHandler_eq_ok history.passed
    obtain ⟨caller, authenticated, bearer⟩ := history.received.caller issue
    obtain ⟨body, known, bag⟩ := history.received.body issue history.parsed
    obtain ⟨expiresAt, ready⟩ := gates.prepared
    have subject : caller.subject = session.walletCAddr := by
      have owned : request.auth = some { subject := session.walletCAddr } := gates.owned
      rw [authenticated] at owned
      exact congrArg AuthenticatedRequest.subject (Option.some.inj owned)
    refine ⟨history.earlier, history.arrival, history.between, history.moment,
      history.waiting ++ .call id (.allocated (.ok (some history.drawn))) :: history.later,
      request.rawBody, sessionId, session, history.issued, ?_⟩
    refine ⟨history.split, subject ▸ bearer, history.received.captured, ⟨body, known, ?_⟩,
      gates.stored, gates.approved, ?_, history.completed.serialized, ?_⟩
    · exact bag ▸ gates.named
    · exact congrArg Response.body history.written
    · exact history.completed.bound ready
  · intro wallet left right events id call sessions revoked calls reached own
    have alike : Indistinguishable wallet left right :=
      ⟨sessions, revoked, fun id => calls ▸ .same _⟩
    have entry := (Machine.run_related server.next_indistinguishable alike events).calls id
    rw [reached] at entry
    generalize (server.machine.run right events).calls id = other at entry ⊢
    cases entry with
    | same => rfl
    | foreign request leftProgress rightProgress other => exact absurd other (own _ _ rfl)

end GatewayServer

-----------------------------------------------------------------------------------------
-- A server small enough to run
-----------------------------------------------------------------------------------------

def sampleWallet : JsString := js "CAAAAAAAAAAAAAAAAAAAAAAAAAAAAAAAAAAAAAAAAAAAAAAAAAAAAAAA"

/-- The claims of the wallet's token. -/
def sampleTokenClaims : Json.Value :=
  .object
    [
      (js "iss", .string (js "gateway")),
      (js "sub", .string sampleWallet),
      (js "aud", .string (js "session")),
      (js "iat", .number 1750000000),
      (js "nbf", .number 1750000000),
      (js "exp", .number 1750000900)
    ]

def sampleSessionBody : Json.Value :=
  .object
    [
      (js "wallet_c_addr", .string sampleWallet),
      (js "chain_id", .string (js "testnet"))
    ]

/-- A body that asks for the two ages and for nothing else. -/
def sampleIssueBody (over18 over21 : Bool) : Json.Value :=
  .object
    [
      (js "sessionId", .string (js "session-1")),
      (js "over18", .boolean over18),
      (js "over21", .boolean over21),
      (js "notSanctioned", .boolean true),
      (js "notPep", .boolean false),
      (js "jurisdictionOk", .boolean false),
      (js "livenessOk", .boolean false)
    ]

/-- The parser knows a text by its only octet. -/
def sampleParseJson : Bytes → Option Json.Value
  | [0] => some sampleTokenClaims
  | [1] => some sampleSessionBody
  | [2] => some (sampleIssueBody true true)
  | [3] => some (sampleIssueBody false false)
  | _ => none

def sampleTokens : TokenSignatures where
  verifyEs256 _ _ _ := some false
  verifyEddsa _ message signature := some (signature == beBytes 64 (beNat message))

def sampleBbs : BbsLibrary where
  secretKeyToPublicKey secretKey := some (beBytes 96 (beNat secretKey))
  sign _ _ _ messages := some (beBytes 80 (beNat messages.flatten))
  deriveProof _ _ _ _ _ _ := none

def sampleServer : GatewayServer where
  config :=
    {
      network := js "testnet"
      networkPassphrase := js "Test SDF Network ; September 2015"
      kycGateContractId := js "C1"
      kycRegistryContractId := js "C2"
      issuerPublicKey := beBytes 96 7
      issuerSecretKey := beBytes 32 7
      statusListUrl := js "https://issuer.example/v1/status-list"
      statusListSigningKey := sampleKey 9
      verificationMethod := js "did:example:issuer#key-1"
      statusListStore := .inMemory
      auth :=
        some
          {
            publicKey :=
              { type := .publicKey, asymmetricKeyType := .ed25519, crv := [], material := [] }
            issuer := js "gateway"
            audience := js "session"
          }
    }
  libraries :=
    {
      toStatusLibraries := sampleLibraries sampleParseJson
      bbs := sampleBbs
      curves := { g1 := fun _ => none, g2 := fun _ => none }
      tokens := sampleTokens
      createGenerators := none
    }

/-- The wallet's token. -/
def sampleToken : JsString :=
  let signed := frozenHeaderB64 .eddsa ++ js ".AA"
  signed ++ js "." ++ base64urlEncode (beBytes 64 (beNat (bufferFromAscii signed)))

/-- A request of the wallet. -/
def sampleArrival (method path : String) (body : Bytes) : Arrival where
  request :=
    {
      method := some (js method)
      url := some (js path)
      xRequestId := .one (js "request-1")
      contentLength := none
      authorization := .one (js "Bearer " ++ sampleToken)
      body := some body
    }
  freshId := []
  now := 1750000000

def sampleMoment : Moment where
  now := 1750000000
  sessionId := js "session-1"
  salt := beBytes 32 5

/-- The provider approves somebody who is seventeen. -/
def sampleReport : Report where
  status :=
    {
      answer := .approved
      dateOfBirth := some (js "2008-01-01")
      residenceCountry := some (js "DE")
      sanctionsHit := some false
      pepHit := some false
      livenessPassed := some true
    }
  time := some 1749988800000

/-- A session is opened and approved, and a credential is asked for with a body. -/
def sampleEvents (body : Bytes) : List Event :=
  [
    .call 1 (.received (sampleArrival "POST" "/v1/session" [1])),
    .call 1 (.dispatched sampleMoment),
    .setStatus (js "session-1") .approved sampleReport,
    .call 2 (.received (sampleArrival "POST" "/v1/credentials/issue" body)),
    .call 2 (.dispatched sampleMoment)
  ]

/-- The example run up to the allocator's answer, which draws the first index. -/
def sampleIssuance (body : Bytes) : List Event :=
  sampleEvents body ++ [.call 2 (.allocated (.ok (some 0)))]

/-- A store in which another wallet's session has a status. -/
def stateBeside (status : SessionStatus) : GatewayState :=
  { GatewayState.initial with
    sessions :=
      Function.update GatewayState.initial.sessions (js "session-2")
        (some
          {
            sessionId := js "session-2"
            walletCAddr := js "C2"
            status
            createdAtSeconds := 1750000000
          })
  }

/-- The wallet's credential is issued beside a foreign session, whatever became of that one. -/
theorem issue_requires_own_approved_session_sample
    : ∃ request response,
        response.status = 201
        ∧ sampleServer.AuthorisedIssue (stateBeside .approved) (sampleIssuance [3]) 2 response
        ∧ (sampleServer.machine.run (stateBeside .rejected) (sampleIssuance [3])).calls 2
          = some (.running request (.answered response)) := by
  have outcome
      : ((sampleServer.machine.run (stateBeside .approved) (sampleIssuance [3])).answer 2).map
            (fun answer =>
              decide
                (answer.1.route.handler = .issue ∧ answer.2.status = 201
                  ∧ answer.1.auth = some { subject := sampleWallet }))
          = some true := by
    decide +kernel
  obtain ⟨⟨request, response⟩, answered, checks⟩ := Option.map_eq_some_iff.mp outcome
  obtain ⟨issue, created, own⟩ := of_decide_eq_true checks
  have stores
      : StoresAgree sampleWallet (stateBeside .approved).sessions
          (stateBeside .rejected).sessions := by
    intro sessionId
    by_cases other : sessionId = js "session-2"
    · subst other
      simp only [stateBeside, Function.update_self]
      exact .foreign _ .rejected (by decide)
    · simp only [stateBeside, Function.update_of_ne other]
      exact .same _
  obtain ⟨authorised, alike⟩ := GatewayServer.issue_requires_own_approved_session sampleServer
  refine ⟨request, response, created,
    authorised _ _ 2 request response (fun _ => rfl) answered issue created, ?_⟩
  refine alike sampleWallet _ _ _ 2 _ stores rfl rfl
    (GatewayState.answer_eq_some.mp answered) ?_
  rintro _ _ ⟨⟩ foreign
  exact foreign.2 own

end StellarOnramp.GatewayHttp
