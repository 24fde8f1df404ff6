import StellarOnramp.GatewayHttp.Routing

/-! The body of a request as it streams in. However its octets are cut into chunks, and whatever
the stream does after its verdict, the server answers as for the body as a whole, once, and never
keeps more octets than its cap.
-/

namespace StellarOnramp.GatewayHttp

open Attempts Octets

inductive StreamEvent where
  | data (chunk : Bytes)
  | ended
  | failed

/-- A body while it is captured. The promise is settled once there is an outcome. -/
structure BodyCapture where
  chunks : List Bytes
  total : Nat
  outcome : Option (Handling Bytes)
  listening : Bool
  paused : Bool

namespace BodyCapture

def begin : BodyCapture where
  chunks := []
  total := 0
  outcome := none
  listening := true
  paused := false

def fail (capture : BodyCapture) (thrown : Thrown) : BodyCapture :=
  if capture.outcome.isSome then capture
  else { capture with outcome := some (.error thrown), listening := false }

def onData (capture : BodyCapture) (chunk : Bytes) : BodyCapture :=
  let total := capture.total + chunk.length
  if bodyCapBytes < total then
    { capture with total, paused := true }.fail (.http bodyTooLarge)
  else
    { capture with total, chunks := capture.chunks ++ [chunk] }

def onEnd (capture : BodyCapture) : BodyCapture :=
  if capture.outcome.isSome then capture
  else { capture with outcome := some (.ok capture.chunks.flatten) }

/-- A listener that was removed hears nothing. -/
def receive (capture : BodyCapture) (event : StreamEvent) : BodyCapture :=
  if capture.listening then
    match event with
    | .data chunk => capture.onData chunk
    | .ended => capture.onEnd
    | .failed => capture.fail .other
  else
    capture

def run (capture : BodyCapture) (events : List StreamEvent) : BodyCapture :=
  events.foldl receive capture

end BodyCapture

/-- The outcome of a body whose stream has done so much; `none` while it is open. -/
def captureStream (request : HttpRequest) (events : List StreamEvent) : Option (Handling Bytes) :=
  if request.contentLength.any (fun declared => decide ((bodyCapBytes : ℚ) < declared)) then
    some (.error (.http bodyTooLarge))
  else
    (BodyCapture.begin.run events).outcome

/-- The body as a whole at the verdict: what has arrived, or `none` where the stream failed. -/
def arrived (before : Bytes) : List StreamEvent → Option (Option Bytes)
  | [] => none
  | .data chunk :: rest =>
      if bodyCapBytes < (before ++ chunk).length then some (some (before ++ chunk))
      else arrived (before ++ chunk) rest
  | .ended :: _ => some (some before)
  | .failed :: _ => some none

-----------------------------------------------------------------------------------------
-- Settled and open
-----------------------------------------------------------------------------------------

namespace BodyCapture

variable {capture : BodyCapture}

/-- An outcome stands, event by event. -/
theorem receive_settled {outcome : Handling Bytes} (settled : capture.outcome = some outcome)
    (event : StreamEvent)
    : (capture.receive event).outcome = some outcome := by
  unfold receive
  split
  case isFalse => exact settled
  case isTrue =>
    cases event with
    | data chunk =>
        unfold onData fail
        dsimp only
        split
        case isTrue => simp only [settled, Option.isSome_some, if_true]
        case isFalse => exact settled
    | ended =>
        unfold onEnd
        simp only [settled, Option.isSome_some, if_true]
    | failed =>
        unfold fail
        simp only [settled, Option.isSome_some, if_true]

/-- An outcome stays whatever comes later. -/
theorem run_settled {outcome : Handling Bytes} (settled : capture.outcome = some outcome)
    (events : List StreamEvent)
    : (capture.run events).outcome = some outcome := by
  induction events generalizing capture with
  | nil => exact settled
  | cons event rest ih => exact ih (receive_settled settled event)

/-- A body that is still open, with the octets that have arrived. -/
structure Reading (capture : BodyCapture) (before : Bytes) : Prop where
  listening : capture.listening = true
  unsettled : capture.outcome = none
  kept : capture.chunks.flatten = before
  counted : capture.total = before.length

theorem reading_begin : begin.Reading [] := ⟨rfl, rfl, rfl, rfl⟩

/-- The verdict on a body as a whole. -/
def verdict : Option Bytes → Handling Bytes
  | none => .error .other
  | some body => if bodyCapBytes < body.length then .error (.http bodyTooLarge) else .ok body

/-- Event by event up to the verdict, by induction on the events. -/
theorem Reading.run {before : Bytes} (reading : capture.Reading before)
    (within : before.length ≤ bodyCapBytes) (events : List StreamEvent)
    : (capture.run events).outcome = (arrived before events).map verdict := by
  induction events generalizing capture before with
  | nil => exact reading.unsettled
  | cons event rest ih =>
      change ((capture.receive event).run rest).outcome = _
      cases event with
      | data chunk =>
          have length : (before ++ chunk).length = capture.total + chunk.length := by
            rw [List.length_append, reading.counted]
          by_cases large : bodyCapBytes < (before ++ chunk).length
          · have beyond : bodyCapBytes < capture.total + chunk.length := length ▸ large
            have settled
                : (capture.receive (.data chunk)).outcome = some (.error (.http bodyTooLarge)) := by
              simp [receive, onData, fail, reading.listening, reading.unsettled, beyond]
            rw [run_settled settled, arrived, if_pos large, Option.map_some, verdict,
              if_pos large]
          · have onward : (capture.receive (.data chunk)).Reading (before ++ chunk) := by
              have same
                  : capture.receive (.data chunk)
                    = { capture with
                        total := (before ++ chunk).length
                        chunks := capture.chunks ++ [chunk] } := by
                simp only [receive, reading.listening, if_true, onData, ← length, if_neg large]
              rw [same]
              exact ⟨reading.listening, reading.unsettled, by simp [reading.kept], rfl⟩
            rw [ih onward (not_lt.mp large), arrived, if_neg large]
      | ended =>
          have settled : (capture.receive .ended).outcome = some (.ok before) := by
            simp [receive, onEnd, reading.listening, reading.unsettled, reading.kept]
          rw [run_settled settled, arrived, Option.map_some, verdict, if_neg (not_lt.mpr within)]
      | failed =>
          have settled : (capture.receive .failed).outcome = some (.error .other) := by
            simp [receive, fail, reading.listening, reading.unsettled]
          rw [run_settled settled, arrived, Option.map_some, verdict]

end BodyCapture

/-- Over every stream, the outcome is that of the whole body at the verdict, and there is none
before; what the stream does afterwards changes nothing.
-/
theorem captureStream_eq (request : HttpRequest) (events : List StreamEvent)
    : captureStream request events
      = if request.contentLength.any (fun declared => decide ((bodyCapBytes : ℚ) < declared)) then
          some (.error (.http bodyTooLarge))
        else
          (arrived [] events).map fun body => captureBody { request with body } := by
  unfold captureStream
  split
  case isTrue => rfl
  case isFalse undeclared =>
    rw [BodyCapture.reading_begin.run (Nat.zero_le _)]
    congr 1
    funext body
    cases body with
    | none =>
        simp only [BodyCapture.verdict, captureBody, if_neg undeclared, failIf]
        rfl
    | some body =>
        simp only [BodyCapture.verdict, captureBody, if_neg undeclared, failIf]
        split <;> rfl

-----------------------------------------------------------------------------------------
-- What is kept
-----------------------------------------------------------------------------------------

/-- The octets that are kept are among those that were counted, and within the cap. -/
structure BodyCapture.Bounded (capture : BodyCapture) : Prop where
  counted : capture.chunks.flatten.length ≤ capture.total
  within : capture.chunks.flatten.length ≤ bodyCapBytes

section

variable {capture : BodyCapture}

theorem BodyCapture.Bounded.fail (bounded : capture.Bounded) (thrown : Thrown)
    : (capture.fail thrown).Bounded := by
  unfold BodyCapture.fail
  split
  · exact bounded
  · exact ⟨bounded.counted, bounded.within⟩

theorem BodyCapture.Bounded.onEnd (bounded : capture.Bounded) : capture.onEnd.Bounded := by
  unfold BodyCapture.onEnd
  split
  · exact bounded
  · exact ⟨bounded.counted, bounded.within⟩

/-- A chunk that would pass the cap is not kept. -/
theorem BodyCapture.Bounded.onData (bounded : capture.Bounded) (chunk : Bytes)
    : (capture.onData chunk).Bounded := by
  have counted := bounded.counted
  unfold BodyCapture.onData
  dsimp only
  split
  case isTrue =>
    have paused
        : ({ capture with total := capture.total + chunk.length, paused := true }
            : BodyCapture).Bounded :=
      ⟨counted.trans (Nat.le_add_right _ _), bounded.within⟩
    exact paused.fail _
  case isFalse fits =>
    have length
        : (capture.chunks ++ [chunk]).flatten.length
          = capture.chunks.flatten.length + chunk.length := by
      simp
    have summed : capture.chunks.flatten.length + chunk.length ≤ capture.total + chunk.length :=
      Nat.add_le_add_right counted _
    exact ⟨length.trans_le summed, length.trans_le (summed.trans (not_lt.mp fits))⟩

theorem BodyCapture.Bounded.receive (bounded : capture.Bounded) (event : StreamEvent)
    : (capture.receive event).Bounded := by
  unfold BodyCapture.receive
  by_cases heard : capture.listening = true
  · rw [if_pos heard]
    cases event with
    | data chunk => exact bounded.onData chunk
    | ended => exact bounded.onEnd
    | failed => exact bounded.fail .other
  · rw [if_neg heard]
    exact bounded

/-- By induction on the events. -/
theorem BodyCapture.Bounded.run (bounded : capture.Bounded) (events : List StreamEvent)
    : (capture.run events).Bounded := by
  induction events generalizing capture with
  | nil => exact bounded
  | cons event rest ih => exact ih (bounded.receive event)

end

/-- Whatever a client streams, before the verdict and after it, no more octets are kept than the
cap allows, and an outcome stands.
-/
theorem capture_bounded (events more : List StreamEvent)
    : (BodyCapture.begin.run events).chunks.flatten.length ≤ bodyCapBytes
      ∧ ∀ outcome,
          (BodyCapture.begin.run events).outcome = some outcome
          → (BodyCapture.begin.run (events ++ more)).outcome = some outcome := by
  have bounded : BodyCapture.begin.Bounded := ⟨Nat.zero_le _, Nat.zero_le _⟩
  refine ⟨(bounded.run events).within, fun outcome settled => ?_⟩
  unfold BodyCapture.run at *
  rw [List.foldl_append]
  exact BodyCapture.run_settled settled more

example
    : (BodyCapture.begin.run [.data [1, 2], .data [3], .ended, .failed]).outcome.map Except.toOption
      = some (some [1, 2, 3]) := by
  decide

end StellarOnramp.GatewayHttp
