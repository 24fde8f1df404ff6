import Mathlib.Data.List.TakeWhile
import StellarOnramp.GatewayHttp.Authorisation

/-! The served status list and the credentials that were issued: which of their indexes the
list has an entry for.
-/

namespace StellarOnramp.GatewayHttp

open Attempts JsText Octets Transitions
open StellarOnramp.Identity StellarOnramp.Gateway

-----------------------------------------------------------------------------------------
-- Issued and revoked indexes
-----------------------------------------------------------------------------------------

/-- The index of the credential of an answer. -/
def Response.revocationIndex (response : Response) : Option Number :=
  match response.body.get (js "revocation_index") with
  | some (.number index) => some index
  | _ => none

/-- An index of a credential that the server has answered with. -/
def GatewayState.Issued (state : GatewayState) (index : Number) : Prop :=
  ∃ id request response,
    state.answer id = some (request, response)
    ∧ request.route.handler = .issue
    ∧ response.status = 201
    ∧ response.revocationIndex = some index

/-- An index was revoked and not cleared since. -/
def wasRevoked (events : List Event) (index : Number) : Bool :=
  events.foldl
    (fun revoked event =>
      match event with
      | .revoke other => revoked || other == index
      | .clear other => revoked && other != index
      | _ => revoked)
    false

theorem mem_of_wasRevoked {events : List Event} {index : Number}
    (revoked : wasRevoked events index = true)
    : .revoke index ∈ events := by
  induction events using List.reverseRecOn with
  | nil => cases revoked
  | append_singleton events event ih =>
      rw [wasRevoked, List.foldl_append, List.foldl_cons, List.foldl_nil] at revoked
      split at revoked
      case h_1 other =>
        rcases Bool.or_eq_true_iff.mp revoked with earlier | here
        · exact List.mem_append_left _ (ih earlier)
        · obtain rfl := eq_of_beq here
          exact List.mem_append_right _ (List.mem_singleton.mpr rfl)
      case h_2 => exact List.mem_append_left _ (ih (Bool.and_eq_true_iff.mp revoked).1)
      case h_3 => exact List.mem_append_left _ (ih revoked)

namespace GatewayServer

variable {server : GatewayServer}

/-- The store of revoked indexes after one event. -/
theorem mem_revoked_next (state : GatewayState) (event : Event) (index : Number)
    : index ∈ (server.machine.next state event).revoked
      ↔ match event with
        | .revoke other => index ∈ state.revoked ∨ other = index
        | .clear other => index ∈ state.revoked ∧ other ≠ index
        | _ => index ∈ state.revoked := by
  cases event with
  | call id event => rw [next_call]
  | setStatus sessionId status report => rw [next_setStatus]
  | revoke other =>
      change index ∈ (if other ∈ state.revoked then _ else _) ↔ _
      split
      case isTrue known => exact ⟨.inl, fun either => either.elim id (fun same => same ▸ known)⟩
      case isFalse => rw [List.mem_append, List.mem_singleton, eq_comm (a := index)]
  | clear other =>
      change index ∈ state.revoked.filter _ ↔ _
      simp [List.mem_filter, ne_comm]

/-- The store holds what was revoked and not cleared since, by induction on the run. -/
theorem mem_revoked_iff (events : List Event) (index : Number)
    : index ∈ (server.machine.run .initial events).revoked ↔ wasRevoked events index = true := by
  induction events using List.reverseRecOn with
  | nil => simp [GatewayState.initial, wasRevoked]
  | append_singleton events event ih =>
      rw [Machine.run_append, Machine.run_cons, Machine.run_nil, mem_revoked_next, wasRevoked,
        List.foldl_append, List.foldl_cons, List.foldl_nil, ← wasRevoked]
      cases event <;> simp [ih]

/-- An answer stays. -/
theorem answer_next {state : GatewayState} {id : Nat} {answer : Admitted × Response}
    (answered : state.answer id = some answer) (event : Event)
    : (server.machine.next state event).answer id = some answer := by
  obtain ⟨request, response⟩ := answer
  have call := GatewayState.answer_eq_some.mp answered
  apply GatewayState.answer_eq_some.mpr
  cases event with
  | call other event =>
      rw [next_call]
      by_cases same : id = other
      · subst same
        dsimp only
        rw [Function.update_self, call]
        cases event <;> rfl
      · dsimp only
        rw [Function.update_of_ne same, call]
  | setStatus sessionId status report => rw [next_setStatus, call]
  | revoke index => exact call
  | clear index => exact call

/-- What was issued stays issued, by induction on the run. -/
theorem issued_run {state : GatewayState} {index : Number} (issued : state.Issued index)
    (events : List Event)
    : (server.machine.run state events).Issued index := by
  induction events generalizing state with
  | nil => exact issued
  | cons event rest ih =>
      obtain ⟨id, request, response, answered, created⟩ := issued
      exact ih ⟨id, request, response, answer_next answered event, created⟩

/-- Only issued indexes are revoked. -/
def RevokesIssued (server : GatewayServer) (events : List Event) : Prop :=
  Machine.Throughout
    (fun before event =>
      ∀ index, event = .revoke index → (server.machine.run .initial before).Issued index)
    [] events

theorem RevokesIssued.issued {events : List Event} (lawful : server.RevokesIssued events)
    {index : Number} (revoked : wasRevoked events index = true)
    : (server.machine.run .initial events).Issued index := by
  obtain ⟨before, after, rfl⟩ := List.append_of_mem (mem_of_wasRevoked revoked)
  have issued : (server.machine.run .initial before).Issued index := lawful.at_split index rfl
  rw [Machine.run_append]
  exact issued_run issued _

/-- An issued index was handed out by the allocator, and is a `u32`. -/
theorem exists_allocated_of_issued {events : List Event} {index : Number}
    (issued : (server.machine.run .initial events).Issued index)
    : (∃ id, .call id (.allocated (.ok (some index))) ∈ events)
      ∧ 0 ≤ index
      ∧ index ≤ maxRevocationIndex := by
  obtain ⟨id, request, response, answered, issue, created, shown⟩ := issued
  obtain ⟨history⟩ := exists_issueHistory idle_initial answered issue created
  have drawn : history.issued.record.revocationIndex = history.drawn := by
    rw [history.completed.record]
    rfl
  have index_eq : index = history.drawn := by
    have body := congrArg Response.revocationIndex history.written
    rw [shown] at body
    rw [Option.some.inj body, drawn]
  rw [index_eq]
  exact ⟨⟨id, history.mem_allocated⟩, history.completed.usable⟩

-----------------------------------------------------------------------------------------
-- The request for the list
-----------------------------------------------------------------------------------------

/-- A request for the list of our issuer id. -/
structure AsksForList (server : GatewayServer) (request : HttpRequest) : Prop where
  method : request.method = some (js "GET")
  url : request.url = some (js "/v1/status-list/" ++ server.ourIssuer)

/-- A configuration under which the server publishes at all. -/
structure ServesLists (server : GatewayServer) : Prop where
  key : server.config.issuerPublicKey.length = g2CompressedBytes
  digest : (server.libraries.sha256 server.config.issuerPublicKey).length = 32
  reachable
    : ∃ url,
        assertHttpsUrl server.libraries.toStatusLibraries server.config.statusListUrl
            (js "status list URL")
          = .ok url
  labelled : server.config.verificationMethod ≠ []
  signs
    : ∃ der,
        server.config.statusListSigningKey.privateKey = .ok der
        ∧ ∀ message, ∃ signature, server.libraries.signatures.sign der message = some signature
  buffer : minimumStatusListEntries / 8 ≤ server.libraries.platform.maxBufferBytes
  roundTrips : server.libraries.platform.RoundTrips

/-- A clock whose dates can be written, today and tomorrow. -/
def DatedClock (now : Number) : Prop :=
  0 ≤ now ∧ now + defaultStatusListValiditySeconds ≤ lastSecond

/-- Hexadecimal text of at least one octet ends in no slash and has neither slash nor query. -/
theorem ourIssuer_units (serves : server.ServesLists)
    : server.ourIssuer ≠ [] ∧ ∀ unit ∈ server.ourIssuer, unit ≠ 47 ∧ unit ≠ 63 := by
  constructor
  · intro empty
    have length := bytesToHex_length (server.libraries.sha256 server.config.issuerPublicKey)
    rw [serves.digest] at length
    rw [ourIssuer, issuerIdFromPublicKey] at empty
    rw [empty] at length
    cases length
  · intro unit member
    have digit := List.all_eq_true.mp (bytesToHex_all _) unit member
    constructor <;> rintro rfl <;> exact absurd digit (by decide)

/-- A path that ends in no slash and has no query is the whole URL. -/
theorem pathOf_eq {request : HttpRequest} {path : JsString} {last : UInt16}
    (url : request.url = some (path ++ [last])) (query : 63 ∉ path ++ [last]) (slash : last ≠ 47)
    : request.pathOf = path ++ [last] := by
  have whole : (path ++ [last]).takeWhile (fun unit => unit != 63) = path ++ [last] := by
    refine List.takeWhile_eq_self_iff.mpr fun unit member => ?_
    exact bne_iff_ne.mpr fun same => query (same ▸ member)
  have kept
      : (path ++ [last]).reverse.dropWhile (fun unit => unit == 47) = last :: path.reverse := by
    rw [List.reverse_append, List.reverse_singleton, List.singleton_append, List.dropWhile_cons]
    simp [slash]
  simp only [HttpRequest.pathOf, url, whole, kept]
  simp

theorem withoutSlash_eq {path : JsString} (slash : path.getLast? ≠ some 47)
    : withoutSlash path = path :=
  if_neg slash

/-- The routes of the server lead such a request to the list. Witness: a literal path differs
within its first characters, and the other template has another prefix.
-/
theorem matchRoute_list {value : JsString} (filled : value ≠ [])
    (plain : ∀ unit ∈ value, unit ≠ 47)
    : ∃ route,
        matchRoute routes (js "GET") (js "/v1/status-list/" ++ value)
            = .ok route [(js "issuer_id", value)]
        ∧ route.handler = .statusList
        ∧ route.jsonBody = false := by
  have slash : value.getLast? ≠ some 47 :=
    fun last => plain 47 (List.mem_of_getLast? last) rfl
  have whole
      : withoutSlash (js "/v1/status-list/" ++ value) = js "/v1/status-list/" ++ value := by
    apply withoutSlash_eq
    rwa [List.getLast?_append_of_ne_nil _ filled]
  have first
      : (literalPath "/v1/.well-known/issuer").match? (js "/v1/status-list/" ++ value) = none := by
    have differs : js "/v1/status-list/" ++ value ≠ js "/v1/.well-known/issuer" := by
      intro same
      have start : js "/v1/s" = (js "/v1/.well-known/issuer").take 5 := by
        rw [← same]
        rfl
      exact absurd start (by decide)
    simp only [PathTemplate.match?, literalPath, whole, differs, or_self, if_false]
  have second
      : PathTemplate.match? { literal := js "/v1/schema/", param := some (js "version") }
            (js "/v1/status-list/" ++ value)
          = none := by
    unfold PathTemplate.match?
    refine if_neg fun matched => ?_
    cases matched.1
  have third
      : PathTemplate.match? { literal := js "/v1/status-list/", param := some (js "issuer_id") }
            (js "/v1/status-list/" ++ value)
          = some [(js "issuer_id", value)] := by
    have starts : (js "/v1/status-list/").isPrefixOf (js "/v1/status-list/" ++ value) = true :=
      List.isPrefixOf_iff_prefix.mpr (List.prefix_append _ _)
    simp only [PathTemplate.match?, List.drop_left, withoutSlash_eq slash]
    exact if_pos ⟨starts, filled, fun member => plain 47 member rfl⟩
  refine ⟨routes[2], ?_, rfl, rfl⟩
  unfold matchRoute routes
  simp only [List.findSome?_cons, first, second, third]
  rfl

/-- A request for the list that waits is for the list handler, and names our issuer. -/
theorem Received.list (serves : server.ServesLists) {arrival : Arrival} {request : Admitted}
    (received : server.Received arrival request) (asks : server.AsksForList arrival.request)
    : request.route.handler = .statusList
      ∧ request.route.jsonBody = false
      ∧ request.params = [(js "issuer_id", server.ourIssuer)] := by
  obtain ⟨filled, plain⟩ := ourIssuer_units serves
  obtain ⟨route, matched, handler, bodiless⟩ :=
    matchRoute_list filled fun unit member => (plain unit member).1
  have path : arrival.request.pathOf = js "/v1/status-list/" ++ server.ourIssuer := by
    obtain ⟨init, last, split⟩ := (List.eq_nil_or_concat server.ourIssuer).resolve_left filled
    rw [List.concat_eq_append] at split
    have url := asks.url
    rw [split, ← List.append_assoc] at url ⊢
    refine pathOf_eq url ?_ ?_
    · rw [List.append_assoc, ← split]
      intro member
      rcases List.mem_append.mp member with early | late
      · exact absurd early (by decide)
      · exact (plain 63 late).2 rfl
    · exact (plain last (split ▸ List.mem_append_right _ (List.mem_singleton.mpr rfl))).1
  have method : arrival.request.methodOf = js "GET" := by
    rw [HttpRequest.methodOf, asks.method]
    decide
  have found := received.matched
  rw [path, method, matched] at found
  obtain ⟨same, params⟩ := MatchResult.ok.inj found
  rw [← same, ← params]
  exact ⟨handler, bodiless, rfl⟩

-----------------------------------------------------------------------------------------
-- The list
-----------------------------------------------------------------------------------------

/-- The answer is a list on which every issued index has a status, which is nonzero exactly
where the index was revoked.
-/
def Covers (server : GatewayServer) (events : List Event) (response : Response) : Prop :=
  response.status = 200
  ∧ ∃ decoded,
      decodeStatusList server.libraries.platform (toBitstringStatusList response.body)
          (some (js "revocation"))
        = .ok decoded
      ∧ ∀ index,
          (server.machine.run .initial events).Issued index →
          ∃ status,
            statusAt decoded index = .ok status
            ∧ (status ≠ 0 ↔ wasRevoked events index = true)

/-- The answer to a request for the list that is handled now. -/
def listAnswer (server : GatewayServer) (state : GatewayState) (requestId : JsString)
    (now : Number)
    : Response :=
  answerOf requestId
    ((ofAttempt
        (publishStatusList server.libraries.toStatusLibraries
          (server.statusListRequest state.revoked now))).map
      (writeJson requestId 200))

theorem answer_dispatched (serves : server.ServesLists) {state : GatewayState} {id : Nat}
    {request : Admitted} {arrival : Arrival} (waiting : state.waiting id = some request)
    (received : server.Received arrival request) (asks : server.AsksForList arrival.request)
    (moment : Moment)
    : (server.machine.next state (.call id (.dispatched moment))).answer id
      = some (request, server.listAnswer state request.requestId moment.now) := by
  obtain ⟨handler, bodiless, params⟩ := received.list serves asks
  have call := GatewayState.waiting_eq_some.mp waiting
  have parsed : server.parseBody request = .ok none := by
    rw [parseBody, bodiless]
    rfl
  have named : (request.params.lookup (js "issuer_id")) = some server.ourIssuer := by
    rw [params]
    rfl
  have listed
      : server.statusListHandler state.revoked (Admitted.context request none) moment.now
        = ofAttempt
            (publishStatusList server.libraries.toStatusLibraries
              (server.statusListRequest state.revoked moment.now)) := by
    have keyed
        : failIf (server.config.issuerPublicKey.length ≠ g2CompressedBytes)
              (Thrown.http issuerConfigIncomplete)
            = .ok () :=
      failIf_eq_ok.mpr (not_not.mpr serves.key)
    have addressed
        : failIf
              ((Admitted.context request none).params.lookup (js "issuer_id")
                ≠ some server.ourIssuer)
              (Thrown.http statusListNotFound)
            = .ok () :=
      failIf_eq_ok.mpr (not_not.mpr named)
    rw [statusListHandler, keyed, addressed]
    rfl
  apply GatewayState.answer_eq_some.mpr
  rw [next_call]
  dsimp only
  rw [Function.update_self, call]
  simp only [outcome, advance, dispatch, parsed, handle, handler, answerDocument, listed]
  rfl

/-- The publisher's checks pass where every revoked index is on a list of the least size. -/
theorem publishable_of_small (serves : server.ServesLists) {revoked : List Number} {now : Number}
    (clock : DatedClock now)
    (small : ∀ index ∈ revoked, 0 ≤ index ∧ index < minimumStatusListEntries)
    : Publishable server.libraries.toStatusLibraries (server.statusListRequest revoked now)
        minimumStatusListEntries where
  reachable := serves.reachable
  issuer := (ourIssuer_units serves).1
  labelled := serves.labelled
  natural := clock.1
  window := by
    have later (now : Int) : now < now + (defaultStatusListValiditySeconds : Nat) := by
      simp [defaultStatusListValiditySeconds]
    exact later now
  last := clock.2
  known := by
    change js "revocation" ∈ statusPurposes
    decide
  single := rfl
  counted := rfl
  floor := le_rfl
  whole := rfl
  buffer := serves.buffer
  small := by decide
  inside index listed := small index ((StatusListStore.mem_revokedIndexes _ _ _).mp listed)
  signs := serves.signs

/-- The document that was published, and its list of the least size. -/
theorem listAnswer_eq {state : GatewayState} {requestId : JsString} {now : Number}
    (answered : (server.listAnswer state requestId now).status = 200)
    : ∃ list statusSize bits,
        toBitstringStatusList (server.listAnswer state requestId now).body = list
        ∧ Encoded server.libraries.platform (server.statusListRequest state.revoked now).encoding
            list minimumStatusListEntries statusSize bits := by
  cases published
    : publishStatusList server.libraries.toStatusLibraries
        (server.statusListRequest state.revoked now) with
  | error failure =>
      rw [listAnswer, published] at answered
      cases answered
  | ok document =>
      obtain ⟨list, input, signature, shape⟩ := publishStatusList_eq_ok published
      obtain ⟨entries, statusSize, bits, encoded⟩ := encodeStatusList_eq_ok shape.encoded
      have counted : (minimumStatusListEntries : Number) = entries := encoded.counted
      have same : minimumStatusListEntries = entries := by exact_mod_cast counted
      subst same
      refine ⟨list, statusSize, bits, ?_, encoded⟩
      rw [listAnswer, published]
      change toBitstringStatusList document = list
      rw [shape.document]
      exact toBitstringStatusList_signedDocument _ list signature

/-- A list of single bits and of the least size, and what it decodes to. -/
theorem decode_listAnswer (serves : server.ServesLists) {state : GatewayState}
    {requestId : JsString} {now : Number}
    (answered : (server.listAnswer state requestId now).status = 200)
    : ∃ bits,
        Marks minimumStatusListEntries 1
          (server.config.statusListStore.revokedIndexes state.revoked) bits
        ∧ addressable bits
        ∧ decodeStatusList server.libraries.platform
              (toBitstringStatusList (server.listAnswer state requestId now).body)
              (some (js "revocation"))
            = .ok { statusPurpose := js "revocation", statusSize := 1, bits } := by
  obtain ⟨list, statusSize, bits, read, encoded⟩ := listAnswer_eq answered
  have single : (1 : Number) = statusSize := encoded.requested
  obtain rfl : 1 = statusSize := by exact_mod_cast single
  have fits : bits.length ≤ maxStatusListBytes := by
    have length := encoded.length
    rw [minimumStatusListEntries] at length
    rw [maxStatusListBytes]
    omega
  have decoded := (encoded.decodeStatusList_eq_ok serves.roundTrips).mpr ⟨fits, rfl⟩
  have small := addressable_of_fits fits
  refine ⟨bits, encoded.marks small, small, ?_⟩
  rw [read]
  exact decoded

section

variable {events : List Event} {id : Nat} {request : Admitted} {arrival : Arrival} {moment : Moment}

/-- The list answers after a run for the indexes issued in it. -/
def ListCovers (server : GatewayServer) (events : List Event) (id : Nat) (request : Admitted)
    (moment : Moment)
    : Prop :=
  ∃ response,
    (server.machine.run .initial (events ++ [.call id (.dispatched moment)])).answer id
        = some (request, response)
    ∧ server.Covers events response

/-- The handler asks for no larger list, and an index beyond the least size has no entry. -/
theorem lt_of_listCovers (serves : server.ServesLists)
    (waiting : (server.machine.run .initial events).waiting id = some request)
    (received : server.Received arrival request) (asks : server.AsksForList arrival.request)
    (covered : server.ListCovers events id request moment) {index : Number}
    (issued : (server.machine.run .initial events).Issued index)
    : index < minimumStatusListEntries := by
  obtain ⟨response, answered, ok, decoded, read, covers⟩ := covered
  rw [Machine.run_append, Machine.run_cons, Machine.run_nil,
    answer_dispatched serves waiting received asks moment] at answered
  obtain rfl := (Prod.mk.inj (Option.some.inj answered)).2
  obtain ⟨bits, marks, small, decodes⟩ := decode_listAnswer serves ok
  obtain rfl := Except.ok.inj (decodes.symm.trans read)
  obtain ⟨status, found, -⟩ := covers index issued
  obtain ⟨natural, rfl⟩ := Int.eq_ofNat_of_zero_le (exists_allocated_of_issued issued).2.1
  by_contra large
  have outside : bits.length * 8 < natural * 1 + 1 := by
    rw [marks.length]
    have beyond : ¬ (natural : Int) < minimumStatusListEntries := large
    omega
  exact statusAt_outside outside found

/-- Revoked indexes are issued, so below the least size every one of them has its entry. -/
theorem listCovers_of_lt (serves : server.ServesLists) (lawful : server.RevokesIssued events)
    (waiting : (server.machine.run .initial events).waiting id = some request)
    (received : server.Received arrival request) (asks : server.AsksForList arrival.request)
    (clock : DatedClock moment.now)
    (below
      : ∀ index,
          (server.machine.run .initial events).Issued index → index < minimumStatusListEntries)
    : server.ListCovers events id request moment := by
  have inside
      : ∀ index ∈ (server.machine.run .initial events).revoked,
          0 ≤ index ∧ index < minimumStatusListEntries := by
    intro index member
    have issued := lawful.issued ((mem_revoked_iff events index).mp member)
    exact ⟨(exists_allocated_of_issued issued).2.1, below index issued⟩
  obtain ⟨document, published⟩ :=
    (publishable_of_small serves clock inside).publishStatusList_succeeds
  have ok
      : (server.listAnswer (server.machine.run .initial events) request.requestId
          moment.now).status
        = 200 := by
    rw [listAnswer, published]
    rfl
  obtain ⟨bits, marks, small, decodes⟩ := decode_listAnswer serves ok
  refine ⟨_, ?_, ok, _, decodes, ?_⟩
  · rw [Machine.run_append, Machine.run_cons, Machine.run_nil]
    exact answer_dispatched serves waiting received asks moment
  · intro index issued
    obtain ⟨natural, rfl⟩ := Int.eq_ofNat_of_zero_le (exists_allocated_of_issued issued).2.1
    have within : natural < minimumStatusListEntries := by
      have bound : (natural : Int) < minimumStatusListEntries := below _ issued
      exact_mod_cast bound
    obtain ⟨status, found, marked⟩ :=
      marks.statusAt small ⟨le_rfl, by decide⟩ (js "revocation") within
    refine ⟨status, found, marked.trans ?_⟩
    exact (StatusListStore.mem_revokedIndexes _ _ _).trans (mem_revoked_iff events _)

/-- In every run that revokes issued indexes only, the served list covers every issued index
exactly if each of them is below the least size of a list.
-/
theorem served_list_covers_iff (serves : server.ServesLists)
    (lawful : server.RevokesIssued events)
    (waiting : (server.machine.run .initial events).waiting id = some request)
    (received : server.Received arrival request) (asks : server.AsksForList arrival.request)
    (clock : DatedClock moment.now)
    : server.ListCovers events id request moment
      ↔ ∀ index,
          (server.machine.run .initial events).Issued index → index < minimumStatusListEntries :=
  ⟨fun covered _ issued => lt_of_listCovers serves waiting received asks covered issued,
    listCovers_of_lt serves lawful waiting received asks clock⟩

end

-----------------------------------------------------------------------------------------
-- An index past the list
-----------------------------------------------------------------------------------------

theorem sampleServer_serves : sampleServer.ServesLists where
  key := beBytes_length 96 7
  digest := beBytes_length 32 _
  reachable := ⟨_, assertHttpsUrl_sample sampleParseJson (by decide) _⟩
  labelled := by decide
  signs := ⟨_, rfl, fun message => ⟨_, rfl⟩⟩
  buffer := by decide
  roundTrips := samplePlatform_roundTrips

/-- A request for the list of the example server. -/
def sampleListArrival : Arrival :=
  sampleArrival "GET"
    "/v1/status-list/0000000000000000000000000000000000000000000000000000000000000007" []

theorem sampleListArrival_asks : sampleServer.AsksForList sampleListArrival.request where
  method := rfl
  url := by decide +kernel

/-- The example run whose allocator hands out an index, with some events behind it and a request
for the list.
-/
def sampleListing (index : Number) (rest : List Event) : List Event :=
  sampleEvents [2] ++ .call 2 (.allocated (.ok (some index))) :: rest
    ++ [.call 3 (.received sampleListArrival)]

/-- The only call with the third id is the request for the list. -/
theorem arrival_of_sampleListing {index : Number} {rest : List Event} {arrival : Arrival}
    (others : .call 3 (.received arrival) ∉ rest)
    (member : .call 3 (.received arrival) ∈ sampleListing index rest)
    : arrival = sampleListArrival := by
  simp only [sampleListing, sampleEvents, List.mem_append, List.mem_cons, Event.call.injEq,
    reduceCtorEq, others, List.not_mem_nil, CallEvent.received.injEq,
    Nat.reduceEqDiff, false_and, and_false, or_false, false_or, true_and] at member
  exact member

/-- A request that waits at the end of such a run is the one for the list. -/
theorem received_of_sampleListing {index : Number} {rest : List Event} {request : Admitted}
    (others : ∀ arrival, .call 3 (.received arrival) ∉ rest)
    (waiting
      : (sampleServer.machine.run .initial (sampleListing index rest)).waiting 3 = some request)
    : sampleServer.Received sampleListArrival request := by
  obtain ⟨before, event, after, sessions, split, advanced⟩ :=
    exists_event_of_call idle_initial (GatewayState.waiting_eq_some.mp waiting)
  obtain ⟨arrival, rfl, received⟩ := advance_admitted advanced
  have member : .call 3 (.received arrival) ∈ sampleListing index rest := by
    rw [split]
    exact List.mem_append_right _ List.mem_cons_self
  exact arrival_of_sampleListing (others arrival) member ▸ received

/-- An index that the only answered credential shows. -/
theorem issued_of_outcome {events : List Event} {index : Number} (id : Nat)
    (outcome
      : ((server.machine.run .initial events).answer id).map
            (fun answer =>
              decide
                (answer.1.route.handler = .issue ∧ answer.2.status = 201
                  ∧ answer.2.revocationIndex = some index))
          = some true)
    : (server.machine.run .initial events).Issued index := by
  obtain ⟨⟨request, response⟩, answered, checks⟩ := Option.map_eq_some_iff.mp outcome
  exact ⟨id, request, response, answered, of_decide_eq_true checks⟩

/-- The allocator hands out the first index that a list of the least size lacks. -/
theorem issued_index_past_list
    : ∃ request,
        (sampleServer.machine.run .initial (sampleListing 131072 [])).waiting 3 = some request
        ∧ sampleServer.Received sampleListArrival request
        ∧ (sampleServer.machine.run .initial (sampleListing 131072 [])).Issued 131072
        ∧ ¬ sampleServer.ListCovers (sampleListing 131072 []) 3 request sampleMoment := by
  have waits
      : ((sampleServer.machine.run .initial (sampleListing 131072 [])).waiting 3).isSome
          = true := by
    decide +kernel
  have issued
      : (sampleServer.machine.run .initial (sampleListing 131072 [])).Issued 131072 :=
    issued_of_outcome 2 (by decide +kernel)
  obtain ⟨request, waiting⟩ := Option.isSome_iff_exists.mp waits
  have received := received_of_sampleListing (fun _ => List.not_mem_nil) waiting
  refine ⟨request, waiting, received, issued, fun covered => ?_⟩
  exact absurd
    (lt_of_listCovers sampleServer_serves waiting received sampleListArrival_asks covered issued)
    (by decide)

/-- An index that was issued is revoked, and the list covers it. -/
theorem served_list_covers_revoked
    : ∃ request,
        (sampleServer.machine.run .initial (sampleListing 5 [.revoke 5])).Issued 5
        ∧ sampleServer.ListCovers (sampleListing 5 [.revoke 5]) 3 request sampleMoment := by
  have waits
      : ((sampleServer.machine.run .initial (sampleListing 5 [.revoke 5])).waiting 3).isSome
          = true := by
    decide +kernel
  have issued
      : (sampleServer.machine.run .initial
          (sampleEvents [2] ++ [.call 2 (.allocated (.ok (some 5)))])).Issued 5 :=
    issued_of_outcome 2 (by decide +kernel)
  have lawful : sampleServer.RevokesIssued (sampleListing 5 [.revoke 5]) := by
    refine ⟨?_, ?_, ?_, ?_, ?_, ?_, ?_, ?_, trivial⟩
    case refine_7 =>
      rintro _ ⟨⟩
      exact issued
    all_goals rintro _ ⟨⟩
  obtain ⟨request, waiting⟩ := Option.isSome_iff_exists.mp waits
  have received := received_of_sampleListing (by simp) waiting
  refine ⟨request, ?_, ?_⟩
  · have cut
        : sampleListing 5 [.revoke 5]
          = (sampleEvents [2] ++ [.call 2 (.allocated (.ok (some 5)))])
            ++ [.revoke 5, .call 3 (.received sampleListArrival)] :=
      rfl
    rw [cut, Machine.run_append]
    exact issued_run issued _
  · refine (served_list_covers_iff sampleServer_serves lawful waiting received
      sampleListArrival_asks ⟨by decide, by decide⟩).mpr fun index other => ?_
    obtain ⟨⟨id, allocated⟩, -⟩ := exists_allocated_of_issued other
    have same : index = 5 := by
      simp only [sampleListing, sampleEvents, List.mem_append, List.mem_cons, Event.call.injEq,
        reduceCtorEq, CallEvent.allocated.injEq, Except.ok.injEq, Option.some.injEq,
        List.not_mem_nil, and_false, or_false, false_or] at allocated
      exact allocated.2
    rw [same]
    decide

end GatewayServer

end StellarOnramp.GatewayHttp
