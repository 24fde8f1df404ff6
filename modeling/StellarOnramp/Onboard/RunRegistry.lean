import StellarOnramp.Library.Broadcast
import StellarOnramp.Library.JsText
import StellarOnramp.Library.Transitions

/-! The registry of runs: each run buffers its events and replays them to whoever subscribes,
and it ends once, by its runner or by the timeout. A call of a listener may subscribe and
unsubscribe, and the runner and the timer wait until the calls are over.
-/

namespace StellarOnramp.Onboard

open Broadcast
open JsText
open Transitions

-----------------------------------------------------------------------------------------
-- One run
-----------------------------------------------------------------------------------------

/-- One frame of a run's life: steps, and then a result or an error. -/
inductive RunEvent (Step R : Type) where
  | step (step : Step)
  | done (result : R)
  | error (message : JsString)
  deriving DecidableEq

/-- `event.type !== 'step'` -/
def RunEvent.terminal {Step R : Type} : RunEvent Step R → Bool
  | step _ => false
  | done _ => true
  | error _ => true

/-- `event.type === 'error'` -/
def RunEvent.isError {Step R : Type} : RunEvent Step R → Bool
  | error _ => true
  | _ => false

structure RunCompletion (R : Type) where
  result : Option R
  error : Option JsString
  late : Bool

/-- A run, with the variables that the closures of `start` share. -/
structure RunState (Listener Step R : Type) where
  accountId : JsString
  feed : Feed Listener (RunEvent Step R)
  completed : Bool
  /-- The timeout is set and has not fired. -/
  timer : Bool
  /-- The promise of the runner has settled. -/
  settled : Bool
  /-- What `onComplete` is called with when the listeners have been called. -/
  finishing : Option (RunCompletion R)
  /-- The calls of `onComplete`. -/
  completions : List (RunCompletion R)
  /-- The eviction is set and has not fired. -/
  evict : Bool
  /-- The registry has the run. -/
  kept : Bool

variable {Listener Step R : Type}

def RunState.begin (accountId : JsString) : RunState Listener Step R where
  accountId
  feed := .empty
  completed := false
  timer := true
  settled := false
  finishing := none
  completions := []
  evict := false
  kept := true

/-- A terminal event, the first of which ends the run. -/
def RunState.finish (run : RunState Listener Step R) (event : RunEvent Step R)
    (completion : RunCompletion R)
    : RunState Listener Step R :=
  if run.completed then
    if !event.isError || completion.result.isSome then
      { run with completions := run.completions ++ [{ completion with late := true }] }
    else
      run
  else
    {
      run with
      completed := true
      timer := false
      feed := run.feed.publish event event.terminal
      finishing := some completion
    }

def RunState.emit (run : RunState Listener Step R) (step : Step) : RunState Listener Step R :=
  if run.completed then run else { run with feed := run.feed.publish (.step step) false }

/-- The runner has a result. -/
def RunState.resolve (run : RunState Listener Step R) (result : R) : RunState Listener Step R :=
  { run with settled := true }.finish (.done result)
    { result := some result, error := none, late := false }

/-- The runner has thrown. -/
def RunState.reject (run : RunState Listener Step R) (message : JsString)
    : RunState Listener Step R :=
  { run with settled := true }.finish (.error message)
    { result := none, error := some message, late := false }

/-- The message of the timeout, with the minutes rounded to the nearest number. -/
def timeoutMessage (timeoutMs : Nat) : JsString :=
  js "the run exceeded " ++ numberText ((timeoutMs + 30000) / 60000 : Nat)
    ++ js " minutes and was abandoned; it may still finish on chain " ++ [0x2014]
    ++ js " refresh the page to check your status"

/-- The run has taken too long. -/
def RunState.abandon (run : RunState Listener Step R) (timeoutMs : Nat)
    : RunState Listener Step R :=
  { run with timer := false }.finish (.error (timeoutMessage timeoutMs))
    { result := none, error := some (timeoutMessage timeoutMs), late := false }

/-- The next call of a listener; after the last call about the end comes `onComplete`. -/
def RunState.advance [DecidableEq Listener] (run : RunState Listener Step R)
    : RunState Listener Step R :=
  let feed := run.feed.advance
  match run.finishing with
  | none => { run with feed }
  | some completion =>
      if feed.sending.isSome then
        { run with feed }
      else
        {
          run with
          feed
          finishing := none
          completions := run.completions ++ [completion]
          evict := true
        }

/-- Only the owner of a run that the registry has can subscribe. -/
def RunState.subscribe (run : RunState Listener Step R) (accountId : JsString)
    (listener : Listener)
    : Option (RunState Listener Step R) :=
  if run.kept = false ∨ run.accountId ≠ accountId then
    none
  else
    some { run with feed := run.feed.subscribe listener }

inductive RunInput (Listener Step R : Type) where
  | emit (step : Step)
  | resolve (result : R)
  | reject (message : JsString)
  | timeout
  | evict
  | subscribe (accountId : JsString) (listener : Listener)
  | unsubscribe (handle : Nat)
  | advance

/-- A step of a run. The runner and the timer run between the calls of listeners; a promise
settles once, and a timer fires once.
-/
def RunState.act [DecidableEq Listener] (timeoutMs : Nat) (run : RunState Listener Step R)
    : RunInput Listener Step R → Option (RunState Listener Step R)
  | .emit step => if run.feed.idle then some (run.emit step) else none
  | .resolve result =>
      if run.feed.idle && !run.settled then some (run.resolve result) else none
  | .reject message =>
      if run.feed.idle && !run.settled then some (run.reject message) else none
  | .timeout => if run.feed.idle && run.timer then some (run.abandon timeoutMs) else none
  | .evict => if run.evict then some { run with evict := false, kept := false } else none
  | .subscribe accountId listener => run.subscribe accountId listener
  | .unsubscribe handle => (run.feed.unsubscribe handle).map (fun feed => { run with feed })
  | .advance => some run.advance

/-- What `onComplete` is called with in a step. -/
def RunState.calls [DecidableEq Listener] (run : RunState Listener Step R)
    : RunInput Listener Step R → List (RunCompletion R)
  | .resolve result =>
      if run.completed then [{ result := some result, error := none, late := true }] else []
  | .advance =>
      if run.feed.advance.sending.isSome then [] else run.finishing.toList
  | _ => []

-----------------------------------------------------------------------------------------
-- The registry
-----------------------------------------------------------------------------------------

/-- The runs in the order in which they were started; an id is a position. -/
structure RunRegistry (Listener Step R : Type) where
  runs : List (RunState Listener Step R)

def RunRegistry.empty : RunRegistry Listener Step R := { runs := [] }

/-- The first open run of an account. -/
def RunRegistry.activeRunId (registry : RunRegistry Listener Step R) (accountId : JsString)
    : Option Nat :=
  registry.runs.findIdx? (fun run =>
    run.kept && run.accountId = accountId && !run.feed.closed)

/-- How many runs are open. -/
def RunRegistry.activeCount (registry : RunRegistry Listener Step R) : Nat :=
  registry.runs.countP (fun run => run.kept && !run.feed.closed)

inductive RegistryInput (Listener Step R : Type) where
  | start (accountId : JsString)
  | act (id : Nat) (input : RunInput Listener Step R)

/-- Runs start, and each goes its own way. -/
def runRegistry [DecidableEq Listener] (timeoutMs : Nat)
    : Machine (RunRegistry Listener Step R) (RegistryInput Listener Step R) where
  step registry input :=
    match input with
    | .start accountId => some { runs := registry.runs ++ [.begin accountId] }
    | .act id input =>
        (registry.runs[id]?.bind (fun run => run.act timeoutMs input)).map (fun run =>
          { runs := registry.runs.set id run })

-----------------------------------------------------------------------------------------
-- How far a run is
-----------------------------------------------------------------------------------------

/-- What `onComplete` is told about a terminal event. -/
def RunCompletion.reports (completion : RunCompletion R) : RunEvent Step R → Prop
  | .step _ => False
  | .done result => completion.result = some result ∧ completion.error = none
  | .error message => completion.result = none ∧ completion.error = some message

/-- How far a run is: it goes on, its end is being handed out, or it has ended. Only the
timeout ends a run whose runner has not settled.
-/
inductive RunState.Stage (TimedOut : Prop) (run : RunState Listener Step R) : Prop where
  | going (steps : List Step)
      (log : run.feed.log = steps.map .step)
      (closed : run.feed.closed = false)
      (completed : run.completed = false)
      (finishing : run.finishing = none)
      (completions : run.completions = [])
      (evict : run.evict = false)
      (kept : run.kept = true)
  | ending (steps : List Step) (event : RunEvent Step R) (completion : RunCompletion R)
      (log : run.feed.log = steps.map .step ++ [event])
      (terminal : event.terminal = true)
      (closed : run.feed.closed = true)
      (completed : run.completed = true)
      (finishing : run.finishing = some completion)
      (completions : run.completions = [])
      (reports : completion.reports event)
      (on_time : completion.late = false)
      (sending : run.feed.sending.isSome = true)
      (timed_out : run.settled = false → TimedOut)
      (evict : run.evict = false)
  | ended (steps : List Step) (event : RunEvent Step R) (completion : RunCompletion R)
      (late : List (RunCompletion R))
      (log : run.feed.log = steps.map .step ++ [event])
      (terminal : event.terminal = true)
      (closed : run.feed.closed = true)
      (completed : run.completed = true)
      (finishing : run.finishing = none)
      (completions : run.completions = completion :: late)
      (reports : completion.reports event)
      (on_time : completion.late = false)
      (timed_out : run.settled = false → TimedOut ∧ late = [])
      (late_result
        : late = []
          ∨ TimedOut ∧ ∃ result, late = [{ result := some result, error := none, late := true }])

section

variable {run : RunState Listener Step R} {TimedOut : Prop}

theorem RunState.finish_open (going : run.completed = false) (event : RunEvent Step R)
    (completion : RunCompletion R)
    : run.finish event completion
      = {
          run with
          completed := true
          timer := false
          feed := run.feed.publish event event.terminal
          finishing := some completion
        } := by
  simp [RunState.finish, going]

/-- The end of a run subscribes nobody and leaves the account. -/
theorem RunState.finish_frame (run : RunState Listener Step R) (event : RunEvent Step R)
    (completion : RunCompletion R)
    : (run.finish event completion).feed.joined = run.feed.joined
      ∧ (run.finish event completion).accountId = run.accountId := by
  unfold RunState.finish
  split
  · split <;> exact ⟨rfl, rfl⟩
  · exact ⟨rfl, rfl⟩

/-- An error or a step does not call the callback of a run that has not ended. -/
theorem RunState.finish_completions (run : RunState Listener Step R)
    (event : RunEvent Step R) (completion : RunCompletion R)
    : (run.finish event completion).completions
      = run.completions
        ++ (if run.completed && (!event.isError || completion.result.isSome) then
              [{ completion with late := true }]
            else
              []) := by
  unfold RunState.finish
  cases run.completed with
  | false => simp
  | true => by_cases reported : !event.isError || completion.result.isSome <;> simp [reported]

/-- The first terminal event starts the end of a run. -/
theorem RunState.Stage.finish_open {steps : List Step} {event : RunEvent Step R}
    {completion : RunCompletion R} (log : run.feed.log = steps.map .step)
    (going : run.completed = false) (completions : run.completions = [])
    (evict : run.evict = false) (terminal : event.terminal = true)
    (reports : completion.reports event) (on_time : completion.late = false)
    (timed_out : run.settled = false → TimedOut)
    : (run.finish event completion).Stage TimedOut := by
  rw [RunState.finish_open going]
  exact .ending steps event completion (congrArg (· ++ [event]) log) terminal
    (by simp [Feed.publish, terminal]) rfl rfl completions reports on_time rfl timed_out evict

theorem RunState.Stage.emit (stage : run.Stage TimedOut) (step : Step)
    : (run.emit step).Stage TimedOut := by
  unfold RunState.emit
  split
  case isTrue => exact stage
  case isFalse going =>
    cases stage with
    | going steps log closed completed finishing completions evict kept =>
        refine .going (steps ++ [step]) ?_ ?_ completed finishing completions evict kept
        · rw [List.map_append, ← log]
          rfl
        · simp [Feed.publish, closed]
    | ending steps event completion log terminal closed completed =>
        exact absurd completed going
    | ended steps event completion late log terminal closed completed =>
        exact absurd completed going

/-- A result ends a run, or it is reported late if the timeout ended it. -/
theorem RunState.Stage.resolve (stage : run.Stage TimedOut) (idle : run.feed.idle = true)
    (unsettled : run.settled = false) (result : R)
    : (run.resolve result).Stage TimedOut := by
  cases stage with
  | going steps log closed completed finishing completions evict kept =>
      exact .finish_open log completed completions evict rfl ⟨rfl, rfl⟩ rfl
        (fun none => by cases none)
  | ending steps event completion log terminal closed completed finishing completions reports
      on_time sending =>
      rw [(Feed.idle_iff.mp idle).1] at sending
      cases sending
  | ended steps event completion late log terminal closed completed finishing completions reports
      on_time timed_out =>
      obtain ⟨abandoned, rfl⟩ := timed_out unsettled
      have reported
          : run.resolve result
            = {
                run with
                settled := true
                completions
                  := run.completions ++ [{ result := some result, error := none, late := true }]
              } := by
        simp [RunState.resolve, RunState.finish, RunEvent.isError, completed]
      rw [reported]
      exact .ended steps event completion [{ result := some result, error := none, late := true }]
        log terminal closed completed finishing (by rw [completions]; rfl) reports on_time
        (fun none => by cases none) (.inr ⟨abandoned, result, rfl⟩)

/-- An error ends a run, and nobody hears of it if the timeout ended it. -/
theorem RunState.Stage.reject (stage : run.Stage TimedOut) (idle : run.feed.idle = true)
    (unsettled : run.settled = false) (message : JsString)
    : (run.reject message).Stage TimedOut := by
  cases stage with
  | going steps log closed completed finishing completions evict kept =>
      exact .finish_open log completed completions evict rfl ⟨rfl, rfl⟩ rfl
        (fun none => by cases none)
  | ending steps event completion log terminal closed completed finishing completions reports
      on_time sending =>
      rw [(Feed.idle_iff.mp idle).1] at sending
      cases sending
  | ended steps event completion late log terminal closed completed finishing completions reports
      on_time timed_out =>
      obtain ⟨-, rfl⟩ := timed_out unsettled
      have dropped : run.reject message = { run with settled := true } := by
        simp [RunState.reject, RunState.finish, RunEvent.isError, completed]
      rw [dropped]
      exact .ended steps event completion [] log terminal closed completed finishing completions
        reports on_time (fun none => by cases none) (.inl rfl)

theorem RunState.Stage.abandon (stage : run.Stage TimedOut) (abandoned : TimedOut)
    (timeoutMs : Nat)
    : (run.abandon timeoutMs).Stage TimedOut := by
  have dropped (completed : run.completed = true)
      : run.abandon timeoutMs = { run with timer := false } := by
    simp [RunState.abandon, RunState.finish, RunEvent.isError, completed]
  cases stage with
  | going steps log closed completed finishing completions evict kept =>
      exact .finish_open log completed completions evict rfl ⟨rfl, rfl⟩ rfl (fun _ => abandoned)
  | ending steps event completion log terminal closed completed finishing completions reports
      on_time sending timed_out evict =>
      rw [dropped completed]
      exact .ending steps event completion log terminal closed completed finishing completions
        reports on_time sending timed_out evict
  | ended steps event completion late log terminal closed completed finishing completions reports
      on_time timed_out late_result =>
      rw [dropped completed]
      exact .ended steps event completion late log terminal closed completed finishing completions
        reports on_time timed_out late_result

/-- After the last call of a listener about the end, `onComplete` is called. -/
theorem RunState.Stage.advance [DecidableEq Listener] (stage : run.Stage TimedOut)
    : run.advance.Stage TimedOut := by
  obtain ⟨same_log, same_closed, -⟩ := run.feed.advance_frame
  cases stage with
  | going steps log closed completed finishing completions evict kept =>
      have moved : run.advance = { run with feed := run.feed.advance } := by
        simp [RunState.advance, finishing]
      rw [moved]
      exact .going steps (same_log.trans log) (same_closed.trans closed) completed finishing
        completions evict kept
  | ending steps event completion log terminal closed completed finishing completions reports
      on_time sending timed_out evict =>
      by_cases more : run.feed.advance.sending.isSome
      · have moved : run.advance = { run with feed := run.feed.advance } := by
          simp [RunState.advance, finishing, more]
        rw [moved]
        exact .ending steps event completion (same_log.trans log) terminal
          (same_closed.trans closed) completed finishing completions reports on_time more
          timed_out evict
      · have moved
            : run.advance
              = {
                  run with
                  feed := run.feed.advance
                  finishing := none
                  completions := run.completions ++ [completion]
                  evict := true
                } := by
          simp [RunState.advance, finishing, more]
        rw [moved]
        exact .ended steps event completion [] (same_log.trans log) terminal
          (same_closed.trans closed) completed rfl (by rw [completions]; rfl) reports on_time
          (fun none => ⟨timed_out none, rfl⟩) (.inl rfl)
  | ended steps event completion late log terminal closed completed finishing completions reports
      on_time timed_out late_result =>
      have moved : run.advance = { run with feed := run.feed.advance } := by
        simp [RunState.advance, finishing]
      rw [moved]
      exact .ended steps event completion late (same_log.trans log) terminal
        (same_closed.trans closed) completed finishing completions reports on_time timed_out
        late_result

/-- Whoever subscribes or unsubscribes, a run is as far as it was. -/
theorem RunState.Stage.of_feed (stage : run.Stage TimedOut)
    {feed : Feed Listener (RunEvent Step R)} (log : feed.log = run.feed.log)
    (closed : feed.closed = run.feed.closed) (sending : feed.sending = run.feed.sending)
    : ({ run with feed } : RunState Listener Step R).Stage TimedOut := by
  cases stage with
  | going steps same_log same_closed completed finishing completions evict kept =>
      exact .going steps (log.trans same_log) (closed.trans same_closed) completed finishing
        completions evict kept
  | ending steps event completion same_log terminal same_closed completed finishing completions
      reports on_time same_sending timed_out evict =>
      exact .ending steps event completion (log.trans same_log) terminal
        (closed.trans same_closed) completed finishing completions reports on_time
        ((congrArg Option.isSome sending).trans same_sending) timed_out evict
  | ended steps event completion late same_log terminal same_closed completed finishing
      completions reports on_time timed_out late_result =>
      exact .ended steps event completion late (log.trans same_log) terminal
        (closed.trans same_closed) completed finishing completions reports on_time timed_out
        late_result

/-- A run is evicted after its end. -/
theorem RunState.Stage.evict (stage : run.Stage TimedOut) (set : run.evict = true)
    : ({ run with evict := false, kept := false } : RunState Listener Step R).Stage
        TimedOut := by
  cases stage with
  | going steps log closed completed finishing completions evict =>
      cases evict.symm.trans set
  | ending steps event completion log terminal closed completed finishing completions reports
      on_time sending timed_out evict =>
      cases evict.symm.trans set
  | ended steps event completion late log terminal closed completed finishing completions reports
      on_time timed_out late_result =>
      exact .ended steps event completion late log terminal closed completed finishing completions
        reports on_time timed_out late_result

/-- The run has a terminal event. -/
def RunState.HasEnded (run : RunState Listener Step R) : Prop :=
  ∃ event ∈ run.feed.log, event.terminal = true

theorem RunState.Stage.hasEnded_iff (stage : run.Stage TimedOut)
    : run.HasEnded ↔ run.feed.closed = true := by
  have last (steps : List Step) (event : RunEvent Step R)
      (log : run.feed.log = steps.map .step ++ [event]) (terminal : event.terminal = true)
      : run.HasEnded :=
    ⟨event, log ▸ List.mem_append_right _ List.mem_cons_self, terminal⟩
  cases stage with
  | going steps log closed =>
      refine iff_of_false ?_ (by simp [closed])
      intro ended
      obtain ⟨event, member, terminal⟩ := ended
      rw [log] at member
      obtain ⟨step, -, rfl⟩ := List.mem_map.mp member
      cases terminal
  | ending steps event completion log terminal closed =>
      exact iff_of_true (last steps event log terminal) closed
  | ended steps event completion late log terminal closed =>
      exact iff_of_true (last steps event log terminal) closed

/-- The calls of `onComplete`: none, or one on time and at most one more. -/
theorem RunState.Stage.completions_cases (stage : run.Stage TimedOut)
    : (run.completions = [] ∧ (run.feed.idle = true → ¬ run.HasEnded))
      ∨ ∃ completion late,
          run.completions = completion :: late
          ∧ run.HasEnded
          ∧ completion.late = false
          ∧ (∃ event ∈ run.feed.log, completion.reports event)
          ∧ late.length ≤ 1
          ∧ ∀ other ∈ late, other.late = true ∧ other.result.isSome = true ∧ TimedOut := by
  have ends := stage.hasEnded_iff
  cases stage with
  | going steps log closed completed finishing completions =>
      exact .inl ⟨completions, fun _ => by simp [ends, closed]⟩
  | ending steps event completion log terminal closed completed finishing completions reports
      on_time sending =>
      refine .inl ⟨completions, ?_⟩
      intro idle
      rw [(Feed.idle_iff.mp idle).1] at sending
      cases sending
  | ended steps event completion late log terminal closed completed finishing completions reports
      on_time timed_out late_result =>
      refine .inr ⟨completion, late, completions, ends.mpr closed, on_time, ?_, ?_⟩
      · exact ⟨event, log ▸ List.mem_append_right _ List.mem_cons_self, reports⟩
      · rcases late_result with rfl | ⟨abandoned, result, rfl⟩
        · exact ⟨Nat.zero_le _, fun _ none => by cases none⟩
        · refine ⟨Nat.le_refl _, ?_⟩
          intro other member
          obtain rfl := List.mem_singleton.mp member
          exact ⟨rfl, rfl, abandoned⟩

/-- The registry has every run that goes on. -/
theorem RunState.Stage.kept_of_open (stage : run.Stage TimedOut) (going : ¬ run.HasEnded)
    : run.kept = true := by
  have ends := stage.hasEnded_iff
  cases stage with
  | going steps log closed completed finishing completions evict kept => exact kept
  | ending steps event completion log terminal closed => exact absurd (ends.mpr closed) going
  | ended steps event completion late log terminal closed =>
      exact absurd (ends.mpr closed) going

/-- How often `onComplete` was called on time. -/
theorem RunState.Stage.onTime_cases (stage : run.Stage TimedOut)
    : ((run.completions.filter (fun completion => !completion.late)).length = 0
          ∧ (run.feed.idle = true → ¬ run.HasEnded))
      ∨ ((run.completions.filter (fun completion => !completion.late)).length = 1
          ∧ run.HasEnded) := by
  rcases stage.completions_cases with
    ⟨none, going⟩ | ⟨first, late, calls, ended, on_time, -, -, others⟩
  · exact .inl ⟨by simp [none], going⟩
  · refine .inr ⟨?_, ended⟩
    have dropped : late.filter (fun completion => !completion.late) = [] := by
      apply List.filter_eq_nil_iff.mpr
      intro other member
      simp [(others other member).1]
    rw [calls, List.filter_cons_of_pos (by simp [on_time]), dropped]
    rfl

/-- A run that has not completed has a log that grows. -/
theorem RunState.Stage.growing (stage : run.Stage TimedOut) (going : run.completed = false)
    : run.feed.closed = false := by
  cases stage with
  | going steps log closed => exact closed
  | ending steps event completion log terminal closed completed =>
      cases going.symm.trans completed
  | ended steps event completion late log terminal closed completed =>
      cases going.symm.trans completed

end

-----------------------------------------------------------------------------------------
-- What every step keeps
-----------------------------------------------------------------------------------------

section

variable [DecidableEq Listener] {timeoutMs : Nat} {run after : RunState Listener Step R}
  {Seen : RunInput Listener Step R → Prop}

/-- A run that hands out its events, ends once, and has only its owner's subscriptions; the
steps that it has seen say who subscribed and whether it timed out.
-/
structure RunState.Sound (Seen : RunInput Listener Step R → Prop)
    (run : RunState Listener Step R)
    : Prop where
  tracked : run.feed.Tracked
  stage : run.Stage (Seen .timeout)
  joined : ∀ listener ∈ run.feed.joined, Seen (.subscribe run.accountId listener)

theorem RunState.sound_begin (accountId : JsString)
    : (RunState.begin accountId : RunState Listener Step R).Sound Seen where
  tracked := Feed.tracked_empty
  stage := .going [] rfl rfl rfl rfl rfl rfl rfl
  joined _ member := by cases member

/-- A terminal event is published at most once. -/
theorem RunState.finish_tracked (tracked : run.feed.Tracked) (idle : run.feed.idle = true)
    (growing : run.completed = false → run.feed.closed = false) (event : RunEvent Step R)
    (completion : RunCompletion R)
    : (run.finish event completion).feed.Tracked := by
  cases completed : run.completed with
  | false =>
      rw [RunState.finish_open completed]
      exact tracked.publish idle (growing completed) event event.terminal
  | true =>
      simp only [RunState.finish, completed, if_true]
      split <;> exact tracked

theorem RunState.advance_frame (run : RunState Listener Step R)
    : run.advance.feed = run.feed.advance ∧ run.advance.accountId = run.accountId := by
  unfold RunState.advance
  split
  · exact ⟨rfl, rfl⟩
  · dsimp only
    split <;> exact ⟨rfl, rfl⟩

/-- What ends a run keeps it sound, whatever flags were set before. -/
theorem RunState.Sound.finish (sound : run.Sound Seen) (flagged : RunState Listener Step R)
    (feed : flagged.feed = run.feed) (account : flagged.accountId = run.accountId)
    (completed : flagged.completed = run.completed) (idle : run.feed.idle = true)
    {event : RunEvent Step R} {completion : RunCompletion R}
    (stage : (flagged.finish event completion).Stage (Seen .timeout))
    : (flagged.finish event completion).Sound Seen := by
  obtain ⟨joined, same⟩ := flagged.finish_frame event completion
  refine { tracked := ?_, stage, joined := ?_ }
  · refine RunState.finish_tracked (feed ▸ sound.tracked) (feed ▸ idle) ?_ event completion
    intro going
    rw [feed]
    exact sound.stage.growing (completed ▸ going)
  · intro listener member
    rw [joined, feed] at member
    rw [same, account]
    exact sound.joined listener member

/-- One step of a run, which it then has seen, keeps it sound. -/
theorem RunState.Sound.act (sound : run.Sound Seen) {input : RunInput Listener Step R}
    (seen : Seen input) (acted : run.act timeoutMs input = some after)
    : after.Sound Seen := by
  cases input with
  | emit step =>
      obtain ⟨idle, ran⟩ := Option.ite_none_right_eq_some.mp acted
      obtain rfl := Option.some.inj ran
      have stage := sound.stage.emit step
      unfold RunState.emit at stage ⊢
      split at stage
      case isTrue completed =>
        rw [if_pos completed]
        exact sound
      case isFalse going =>
        rw [if_neg going]
        have growing := sound.stage.growing (by simpa using going)
        exact { tracked := sound.tracked.publish idle growing _ _, stage, joined := sound.joined }
  | resolve result =>
      obtain ⟨free, ran⟩ := Option.ite_none_right_eq_some.mp acted
      obtain rfl := Option.some.inj ran
      obtain ⟨idle, unsettled⟩ : run.feed.idle = true ∧ run.settled = false := by simpa using free
      exact sound.finish { run with settled := true } rfl rfl rfl idle
        (sound.stage.resolve idle unsettled result)
  | reject message =>
      obtain ⟨free, ran⟩ := Option.ite_none_right_eq_some.mp acted
      obtain rfl := Option.some.inj ran
      obtain ⟨idle, unsettled⟩ : run.feed.idle = true ∧ run.settled = false := by simpa using free
      exact sound.finish { run with settled := true } rfl rfl rfl idle
        (sound.stage.reject idle unsettled message)
  | timeout =>
      obtain ⟨free, ran⟩ := Option.ite_none_right_eq_some.mp acted
      obtain rfl := Option.some.inj ran
      obtain ⟨idle, -⟩ : run.feed.idle = true ∧ run.timer = true := by simpa using free
      exact sound.finish { run with timer := false } rfl rfl rfl idle
        (sound.stage.abandon seen timeoutMs)
  | evict =>
      obtain ⟨set, ran⟩ := Option.ite_none_right_eq_some.mp acted
      obtain rfl := Option.some.inj ran
      exact {
        tracked := sound.tracked
        stage := sound.stage.evict set
        joined := sound.joined
      }
  | subscribe accountId listener =>
      obtain ⟨owned, ran⟩ := Option.ite_none_left_eq_some.mp acted
      obtain rfl := Option.some.inj ran
      have same : run.accountId = accountId := by
        by_contra other
        exact owned (.inr other)
      refine {
        tracked := sound.tracked.subscribe listener
        stage := sound.stage.of_feed rfl rfl rfl
        joined := ?_
      }
      intro other member
      rcases List.mem_cons.mp member with rfl | before
      · rw [same]
        exact seen
      · exact sound.joined other before
  | unsubscribe handle =>
      obtain ⟨feed, unsubscribed, rfl⟩ := Option.map_eq_some_iff.mp acted
      obtain ⟨log, closed, joined, sending⟩ := Feed.unsubscribe_frame unsubscribed
      refine {
        tracked := sound.tracked.unsubscribe unsubscribed
        stage := sound.stage.of_feed log closed sending
        joined := ?_
      }
      intro other member
      exact sound.joined other (joined ▸ member)
  | advance =>
      obtain rfl := Option.some.inj acted
      obtain ⟨feed, account⟩ := run.advance_frame
      refine { tracked := ?_, stage := sound.stage.advance, joined := ?_ }
      · rw [feed]
        exact sound.tracked.advance
      · intro other member
        rw [feed, run.feed.advance_frame.2.2] at member
        rw [account]
        exact sound.joined other member

/-- A step of a run calls `onComplete` as `calls` says. -/
theorem RunState.act_completions {input : RunInput Listener Step R}
    (acted : run.act timeoutMs input = some after)
    : after.completions = run.completions ++ run.calls input := by
  cases input with
  | emit step =>
      obtain rfl := Option.some.inj (Option.ite_none_right_eq_some.mp acted).2
      unfold RunState.emit
      split <;> simp [RunState.calls]
  | resolve result =>
      obtain rfl := Option.some.inj (Option.ite_none_right_eq_some.mp acted).2
      rw [RunState.resolve, RunState.finish_completions]
      simp [RunState.calls, RunEvent.isError]
  | reject message =>
      obtain rfl := Option.some.inj (Option.ite_none_right_eq_some.mp acted).2
      rw [RunState.reject, RunState.finish_completions]
      simp [RunState.calls, RunEvent.isError]
  | timeout =>
      obtain rfl := Option.some.inj (Option.ite_none_right_eq_some.mp acted).2
      rw [RunState.abandon, RunState.finish_completions]
      simp [RunState.calls, RunEvent.isError]
  | evict =>
      obtain rfl := Option.some.inj (Option.ite_none_right_eq_some.mp acted).2
      exact (List.append_nil _).symm
  | subscribe accountId listener =>
      obtain rfl := Option.some.inj (Option.ite_none_left_eq_some.mp acted).2
      exact (List.append_nil _).symm
  | unsubscribe handle =>
      obtain ⟨feed, -, rfl⟩ := Option.map_eq_some_iff.mp acted
      exact (List.append_nil _).symm
  | advance =>
      obtain rfl := Option.some.inj acted
      cases finishing : run.finishing with
      | none => simp [RunState.advance, RunState.calls, finishing]
      | some completion =>
          by_cases more : run.feed.advance.sending.isSome
          · simp [RunState.advance, RunState.calls, finishing, more]
          · simp [RunState.advance, RunState.calls, finishing, more]

/-- A step calls `onComplete` at most once. -/
theorem RunState.calls_cases (run : RunState Listener Step R) (input : RunInput Listener Step R)
    : run.calls input = [] ∨ ∃ completion, run.calls input = [completion] := by
  unfold RunState.calls
  split
  · split
    · exact .inr ⟨_, rfl⟩
    · exact .inl rfl
  · split
    · exact .inl rfl
    · cases run.finishing with
      | none => exact .inl rfl
      | some completion => exact .inr ⟨completion, rfl⟩
  · exact .inl rfl

/-- A step of a run leaves its account. -/
theorem RunState.act_accountId {input : RunInput Listener Step R}
    (acted : run.act timeoutMs input = some after)
    : after.accountId = run.accountId := by
  cases input with
  | emit step =>
      obtain rfl := Option.some.inj (Option.ite_none_right_eq_some.mp acted).2
      unfold RunState.emit
      split <;> rfl
  | resolve result =>
      obtain rfl := Option.some.inj (Option.ite_none_right_eq_some.mp acted).2
      exact (RunState.finish_frame _ _ _).2
  | reject message =>
      obtain rfl := Option.some.inj (Option.ite_none_right_eq_some.mp acted).2
      exact (RunState.finish_frame _ _ _).2
  | timeout =>
      obtain rfl := Option.some.inj (Option.ite_none_right_eq_some.mp acted).2
      exact (RunState.finish_frame _ _ _).2
  | evict =>
      obtain rfl := Option.some.inj (Option.ite_none_right_eq_some.mp acted).2
      rfl
  | subscribe accountId listener =>
      obtain rfl := Option.some.inj (Option.ite_none_left_eq_some.mp acted).2
      rfl
  | unsubscribe handle =>
      obtain ⟨feed, -, rfl⟩ := Option.map_eq_some_iff.mp acted
      rfl
  | advance =>
      obtain rfl := Option.some.inj acted
      exact run.advance_frame.2

-----------------------------------------------------------------------------------------
-- Every order of steps
-----------------------------------------------------------------------------------------

/-- The registry took this step of a run in the course of the inputs. -/
def SeenBy (timeoutMs : Nat) (inputs : List (RegistryInput Listener Step R)) (id : Nat)
    (input : RunInput Listener Step R)
    : Prop :=
  ∃ given, (given, .act id input) ∈ (runRegistry timeoutMs).trace .empty inputs

/-- Every run of the registry is sound. -/
def RunRegistry.Sound (Seen : Nat → RunInput Listener Step R → Prop)
    (registry : RunRegistry Listener Step R)
    : Prop :=
  ∀ (id : Nat) (run : RunState Listener Step R),
    registry.runs[id]? = some run → run.Sound (Seen id)

/-- A new run is sound, and a step of a run changes no other run. -/
theorem RunRegistry.Sound.step {Seen : Nat → RunInput Listener Step R → Prop}
    {registry later : RunRegistry Listener Step R} {input : RegistryInput Listener Step R}
    (sound : registry.Sound Seen) (seen : ∀ id acted, input = .act id acted → Seen id acted)
    (stepped : (runRegistry timeoutMs).step registry input = some later)
    : later.Sound Seen := by
  intro id run found
  cases input with
  | start accountId =>
      cases stepped
      rcases Nat.lt_trichotomy id registry.runs.length with old | rfl | beyond
      · rw [List.getElem?_append_left old] at found
        exact sound id run found
      · rw [List.getElem?_append_right (Nat.le_refl _), Nat.sub_self] at found
        cases found
        exact RunState.sound_begin accountId
      · rw [List.getElem?_eq_none (by simpa using Nat.succ_le_of_lt beyond)] at found
        cases found
  | act target input =>
      obtain ⟨changed, acted, rfl⟩ := Option.map_eq_some_iff.mp stepped
      obtain ⟨before, known, acted⟩ := Option.bind_eq_some_iff.mp acted
      by_cases same : target = id
      · subst same
        have short := (List.getElem?_eq_some_iff.mp known).1
        rw [List.getElem?_set_self short] at found
        cases found
        exact (sound target before known).act (seen target input rfl) acted
      · rw [List.getElem?_set_ne same] at found
        exact sound id run found

theorem registry_sound (timeoutMs : Nat) (inputs : List (RegistryInput Listener Step R))
    : ((runRegistry timeoutMs).run .empty inputs).Sound (SeenBy timeoutMs inputs) := by
  refine Machine.run_of_trace ?_ (fun id run found => by cases found)
  intro given input later member stepped sound
  refine sound.step ?_ stepped
  intro id acted same
  exact ⟨given, same ▸ member⟩

/-- What a run that has seen some steps shows to its subscribers and to its caller. -/
structure RunState.Delivers (Seen : RunInput Listener Step R → Prop)
    (run : RunState Listener Step R)
    : Prop where
  /-- Steps, then at most one terminal event. -/
  log
    : ∃ (steps : List Step) (ending : List (RunEvent Step R)),
        run.feed.log = steps.map .step ++ ending
        ∧ ending.length ≤ 1
        ∧ ∀ event ∈ ending, event.terminal = true
  /-- Who subscribed once gets the log in order until it unsubscribes. -/
  received
    : ∀ listener,
        run.feed.joined.count listener = 1
        → run.feed.received listener <+: run.feed.log
          ∧ (run.feed.idle = true → run.feed.received listener = run.feed.due listener)
  on_time_le : (run.completions.filter (fun completion => !completion.late)).length ≤ 1
  on_time
    : run.feed.idle = true
      → ((run.completions.filter (fun completion => !completion.late)).length = 1
          ↔ run.HasEnded)
  reports
    : ∀ completion ∈ run.completions,
        completion.late = false → ∃ event ∈ run.feed.log, completion.reports event
  late_le : (run.completions.filter (fun completion => completion.late)).length ≤ 1
  late_result
    : ∀ completion ∈ run.completions,
        completion.late = true → completion.result.isSome = true ∧ Seen .timeout
  /-- Only what the owner subscribed receives anything. -/
  owner
    : ∀ listener,
        run.feed.received listener ≠ [] → Seen (.subscribe run.accountId listener)

theorem RunState.Sound.delivers (sound : run.Sound Seen) : run.Delivers Seen where
  log := by
    cases sound.stage with
    | going steps log =>
        exact ⟨steps, [], by rw [log, List.append_nil], Nat.zero_le _, fun _ none => by cases none⟩
    | ending steps event completion log terminal =>
        exact ⟨steps, [event], log, Nat.le_refl _, by simpa using terminal⟩
    | ended steps event completion late log terminal =>
        exact ⟨steps, [event], log, Nat.le_refl _, by simpa using terminal⟩
  received _ once := sound.tracked.delivered once
  on_time_le := by
    rcases sound.stage.onTime_cases with ⟨none, -⟩ | ⟨one, -⟩
    · exact none ▸ Nat.zero_le _
    · exact one ▸ Nat.le_refl _
  on_time := by
    intro idle
    rcases sound.stage.onTime_cases with ⟨none, going⟩ | ⟨one, ended⟩
    · exact iff_of_false (by simp [none]) (going idle)
    · exact iff_of_true one ended
  reports := by
    intro completion member on_time
    rcases sound.stage.completions_cases with
      ⟨none, -⟩ | ⟨first, late, calls, -, -, reports, -, others⟩
    · simp [none] at member
    · rw [calls] at member
      rcases List.mem_cons.mp member with rfl | other
      · exact reports
      · simp [(others completion other).1] at on_time
  late_le := by
    rcases sound.stage.completions_cases with
      ⟨none, -⟩ | ⟨first, late, calls, -, on_time, -, short, -⟩
    · simp [none]
    · rw [calls, List.filter_cons_of_neg (by simp [on_time])]
      exact (List.length_filter_le _ _).trans short
  late_result := by
    intro completion member is_late
    rcases sound.stage.completions_cases with
      ⟨none, -⟩ | ⟨first, late, calls, -, on_time, -, -, others⟩
    · simp [none] at member
    · rw [calls] at member
      rcases List.mem_cons.mp member with rfl | other
      · simp [on_time] at is_late
      · exact (others completion other).2
  owner listener received := sound.joined listener (sound.tracked.joined_of_received received)

/-- The account's run that was started first among those that go on. -/
def RunRegistry.FirstOpen (registry : RunRegistry Listener Step R) (accountId : JsString)
    (id : Nat)
    : Prop :=
  ∃ run,
    registry.runs[id]? = some run
    ∧ run.accountId = accountId
    ∧ ¬ run.HasEnded
    ∧ ∀ (earlier : Nat) (other : RunState Listener Step R),
        earlier < id
        → registry.runs[earlier]? = some other
        → other.accountId = accountId
        → other.HasEnded

/-- The test of `activeRunId` on a sound run. -/
theorem RunState.Sound.active_iff (sound : run.Sound Seen) (accountId : JsString)
    : (run.kept && run.accountId = accountId && !run.feed.closed) = true
      ↔ run.accountId = accountId ∧ ¬ run.HasEnded := by
  have ends := sound.stage.hasEnded_iff
  have kept := sound.stage.kept_of_open
  rw [ends] at kept ⊢
  cases closed : run.feed.closed
  · simp [kept (by simp [closed])]
  · simp

theorem RunRegistry.Sound.activeRunId_iff {Seen : Nat → RunInput Listener Step R → Prop}
    {registry : RunRegistry Listener Step R} (sound : registry.Sound Seen)
    (accountId : JsString) (id : Nat)
    : registry.activeRunId accountId = some id ↔ registry.FirstOpen accountId id := by
  have active {position : Nat} (short : position < registry.runs.length) :=
    (sound position registry.runs[position] (List.getElem?_eq_getElem short)).active_iff accountId
  rw [RunRegistry.activeRunId, List.findIdx?_eq_some_iff_getElem]
  constructor
  · intro found
    obtain ⟨short, here, before⟩ := found
    obtain ⟨owned, going⟩ := (active short).mp here
    refine ⟨_, List.getElem?_eq_getElem short, owned, going, ?_⟩
    intro earlier other lower known same
    obtain ⟨inside, rfl⟩ := List.getElem?_eq_some_iff.mp known
    by_contra open_
    exact before earlier lower ((active inside).mpr ⟨same, open_⟩)
  · intro first
    obtain ⟨run, known, owned, going, before⟩ := first
    obtain ⟨short, rfl⟩ := List.getElem?_eq_some_iff.mp known
    refine ⟨short, (active short).mpr ⟨owned, going⟩, ?_⟩
    intro earlier lower here
    obtain ⟨same, open_⟩ := (active (lower.trans short)).mp here
    exact open_ (before earlier _ lower (List.getElem?_eq_getElem (lower.trans short)) same)

/-- In every order of steps, each run delivers its log and ends once, and the active run of an
account is the first that goes on.
-/
theorem runs_deliver (timeoutMs : Nat) (inputs : List (RegistryInput Listener Step R))
    : (∀ (id : Nat) (run : RunState Listener Step R),
          ((runRegistry timeoutMs).run .empty inputs).runs[id]? = some run
          → run.Delivers (SeenBy timeoutMs inputs id))
      ∧ ∀ accountId id,
          ((runRegistry timeoutMs).run .empty inputs).activeRunId accountId = some id
          ↔ ((runRegistry timeoutMs).run .empty inputs).FirstOpen accountId id :=
  ⟨fun id run found => (registry_sound timeoutMs inputs id run found).delivers,
    (registry_sound timeoutMs inputs).activeRunId_iff⟩

end

/-- A function that is subscribed twice, once unsubscribed, and an event after that. -/
def subscribedTwice : List (RegistryInput Nat Nat Nat) :=
  [
    .start (js "account"),
    .act 0 (.subscribe (js "account") 7),
    .act 0 .advance,
    .act 0 (.subscribe (js "account") 7),
    .act 0 .advance,
    .act 0 (.unsubscribe 0),
    .act 0 (.emit 1),
    .act 0 .advance
  ]

/-- The second open run of an account is not its active run, and a function that is subscribed
twice gets nothing more when one of the subscriptions ends.
-/
theorem second_subscription_is_lost
    : (¬ ∀ (inputs : List (RegistryInput Nat Nat Nat)) (id : Nat) (run : RunState Nat Nat Nat),
          ((runRegistry 0).run .empty inputs).runs[id]? = some run
          → (((runRegistry 0).run .empty inputs).activeRunId run.accountId = some id
              ↔ ¬ run.HasEnded))
      ∧ ¬ ∀ (inputs : List (RegistryInput Nat Nat Nat)) (id : Nat) (run : RunState Nat Nat Nat)
            (handle listener : Nat) (live : Bool),
            ((runRegistry 0).run .empty inputs).runs[id]? = some run
            → run.feed.handles[handle]? = some (listener, live)
            → ¬ SeenBy 0 inputs id (.unsubscribe handle)
            → run.feed.idle = true
            → ∀ event ∈ run.feed.log, event ∈ run.feed.received listener := by
  constructor
  · intro named
    have second :=
      (named [.start (js "account"), .start (js "account")] 1 (.begin (js "account")) rfl).mpr
        (fun ended => by
          obtain ⟨event, none, -⟩ := ended
          cases none)
    have first
        : ((runRegistry 0).run (.empty : RunRegistry Nat Nat Nat)
            [.start (js "account"), .start (js "account")]).activeRunId (js "account")
          = some 0 :=
      rfl
    cases first.symm.trans second
  · intro delivered
    have kept : ¬ SeenBy 0 subscribedTwice 0 (.unsubscribe 1) := by
      intro seen
      obtain ⟨given, member⟩ := seen
      obtain ⟨before, after, inputs, -⟩ := Machine.mem_trace member
      have inside : .act 0 (.unsubscribe 1) ∈ subscribedTwice := by
        rw [inputs]
        exact List.mem_append_right _ List.mem_cons_self
      simp [subscribedTwice] at inside
    have received :=
      delivered subscribedTwice 0 _ 1 7 true rfl rfl kept rfl (.step 1) List.mem_cons_self
    cases received

end StellarOnramp.Onboard
