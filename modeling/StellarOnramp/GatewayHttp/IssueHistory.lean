import StellarOnramp.GatewayHttp.Stages

/-! The history of an issued credential: in every run it was received, dispatched and answered
in this order, whatever happened in between.
-/

namespace StellarOnramp.GatewayHttp

open Attempts JsText Octets Transitions
open StellarOnramp.Identity StellarOnramp.Gateway

namespace GatewayServer

variable {server : GatewayServer} {start : GatewayState} {events : List Event} {id : Nat}
  {request : Admitted}

/-- No request is under way. -/
def Idle (state : GatewayState) : Prop := ∀ id, state.calls id = none

theorem idle_initial : Idle .initial := fun _ => rfl

/-- What a call has become in a run, it became at one of its events. -/
theorem exists_event_of_call (idle : Idle start) {call : Call}
    (reached : (server.machine.run start events).calls id = some call)
    : ∃ before event after sessions,
        events = before ++ .call id event :: after
        ∧ server.advance (server.machine.run start before)
              ((server.machine.run start before).calls id) event
            = some (sessions, call) := by
  have not_yet : ¬ start.calls id = some call := by simp [idle id]
  obtain ⟨before, event, after, rfl, changed, written⟩ :=
    Machine.exists_input_of_run (fun state : GatewayState => state.calls id = some call) not_yet
      reached
  obtain ⟨here, sessions, other, rfl, advanced, same⟩ := calls_next written changed
  obtain rfl := Option.some.inj same
  exact ⟨before, here, after, sessions, rfl, advanced⟩

/-- The events and the data behind a created answer of the issue route. -/
structure IssueHistory (server : GatewayServer) (start : GatewayState) (events : List Event)
    (id : Nat) (request : Admitted) (response : Response) where
  arrival : Arrival
  moment : Moment
  drawn : Number
  earlier : List Event
  between : List Event
  waiting : List Event
  later : List Event
  json : Option Json.Value
  prepared : PreparedIssuance
  issued : IssuedCredential
  split
    : events
      = earlier ++ .call id (.received arrival)
          :: (between ++ .call id (.dispatched moment)
            :: (waiting ++ .call id (.allocated (.ok (some drawn))) :: later))
  received : server.Received arrival request
  waited
    : (server.machine.run start (earlier ++ .call id (.received arrival) :: between)).waiting id
      = some request
  parsed : server.parseBody request = .ok json
  passed
    : server.issueHandler
          (server.machine.run start (earlier ++ .call id (.received arrival) :: between)).sessions
          (Admitted.context request json) moment.now moment.salt
        = .ok prepared
  completed
    : Completed server.libraries.bbs server.libraries.sha256 prepared drawn issued
  written : response = writeJson request.requestId 201 (issuedBody issued)

/-- The index was handed out in the run. -/
theorem IssueHistory.mem_allocated {response : Response}
    (history : server.IssueHistory start events id request response)
    : .call id (.allocated (.ok (some history.drawn))) ∈ events := by
  apply (congrArg (Event.call id (.allocated (.ok (some history.drawn))) ∈ ·) history.split).mpr
  simp

/-- Witness: the answer came from the allocator's, that call from the gates, and that one from
its arrival.
-/
theorem exists_issueHistory (idle : Idle start) {response : Response}
    (answered : (server.machine.run start events).answer id = some (request, response))
    (issue : request.route.handler = .issue) (created : response.status = 201)
    : Nonempty (IssueHistory server start events id request response) := by
  obtain ⟨before, event, later, sessions, rfl, advanced⟩ :=
    exists_event_of_call idle (GatewayState.answer_eq_some.mp answered)
  have sound
      : ∀ opened,
          (server.machine.run start before).calls id
            ≠ some (.running request (.onboarding opened)) := by
    intro opened waiting
    obtain ⟨_, _, _, _, _, advanced⟩ := exists_event_of_call idle waiting
    have session := advance_onboarding advanced
    rw [issue] at session
    cases session
  obtain ⟨prepared, drawn, issued, waiting, rfl, completed, written⟩ :=
    advance_created issue created advanced sound
  obtain ⟨before, _, waited, _, rfl, gated⟩ := exists_event_of_call idle waiting
  obtain ⟨admitted, -, moment, json, rfl, parsed, passed⟩ := advance_issuing gated
  obtain ⟨earlier, _, between, _, rfl, arrived⟩ := exists_event_of_call idle admitted
  obtain ⟨arrival, rfl, received⟩ := advance_admitted arrived
  exact ⟨{
    arrival, moment, drawn, earlier, between, waiting := waited, later, json, prepared, issued
    split := by simp
    received, waited := GatewayState.waiting_eq_some.mpr admitted, parsed, passed, completed, written
  }⟩

end GatewayServer

end StellarOnramp.GatewayHttp
