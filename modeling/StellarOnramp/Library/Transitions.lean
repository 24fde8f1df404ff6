import Mathlib.Data.List.Basic
import Mathlib.Logic.Function.Basic

/-! Deterministic machines whose refused inputs change nothing, and rules for their runs:
invariants, counting of events, the last event that wrote an observation, simulation, and
states that are tables.
-/

namespace Transitions

/-- A machine accepts an input by naming the next state and refuses it with `none`. -/
structure Machine (State Input : Type) where
  step : State → Input → Option State

namespace Machine

variable {State Input Value Concrete Command : Type} (machine : Machine State Input)

/-- The state after one input; a refused input leaves the state as it was. -/
def next (state : State) (input : Input) : State :=
  (machine.step state input).getD state

/-- The state after a finite list of inputs. -/
def run (state : State) (inputs : List Input) : State :=
  inputs.foldl machine.next state

@[simp]
theorem run_nil (state : State) : machine.run state [] = state := rfl

@[simp]
theorem run_cons (state : State) (input : Input) (rest : List Input)
    : machine.run state (input :: rest) = machine.run (machine.next state input) rest :=
  rfl

/-- A run over joined inputs continues from where the first part ended. -/
theorem run_append (state : State) (left right : List Input)
    : machine.run state (left ++ right) = machine.run (machine.run state left) right :=
  List.foldl_append

variable {machine}

theorem next_of_step {state after : State} {input : Input}
    (accepted : machine.step state input = some after)
    : machine.next state input = after := by
  simp [next, accepted]

theorem next_of_refused {state : State} {input : Input}
    (refused : machine.step state input = none)
    : machine.next state input = state := by
  simp [next, refused]

-----------------------------------------------------------------------------------------
-- Invariants
-----------------------------------------------------------------------------------------

/-- `Holds` survives every accepted input. -/
def Preserves (machine : Machine State Input) (Holds : State → Prop) : Prop :=
  ∀ state input after, Holds state → machine.step state input = some after → Holds after

/-- One input preserves a preserved property, whether it is accepted or refused. -/
theorem Preserves.next {Holds : State → Prop} (preserves : machine.Preserves Holds)
    {state : State} (holds : Holds state) (input : Input)
    : Holds (machine.next state input) := by
  cases outcome : machine.step state input with
  | none => rwa [next_of_refused outcome]
  | some after =>
      rw [next_of_step outcome]
      exact preserves state input after holds outcome

/-- A preserved property holds at the end of every run, by induction on the inputs. -/
theorem Preserves.run {Holds : State → Prop} (preserves : machine.Preserves Holds)
    {state : State} (holds : Holds state) (inputs : List Input)
    : Holds (machine.run state inputs) := by
  induction inputs generalizing state with
  | nil => exact holds
  | cons input rest ih => exact ih (preserves.next holds input)

-----------------------------------------------------------------------------------------
-- Accepted inputs along a run
-----------------------------------------------------------------------------------------

/-- The accepted inputs of a run in order, each with the state it was given to. -/
def trace (machine : Machine State Input) : State → List Input → List (State × Input)
  | _, [] => []
  | state, input :: rest =>
      if (machine.step state input).isSome then
        (state, input) :: machine.trace (machine.next state input) rest
      else
        machine.trace (machine.next state input) rest

/-- What is traced of a run is its first input, if that is accepted, or traced of the rest. -/
theorem mem_trace_cons {state given : State} {head input : Input} {rest : List Input}
    : (given, input) ∈ machine.trace state (head :: rest)
      ↔ (given = state ∧ input = head ∧ ∃ later, machine.step state head = some later)
        ∨ (given, input) ∈ machine.trace (machine.next state head) rest := by
  rw [trace]
  split
  case isTrue accepted =>
    simp only [List.mem_cons, Prod.mk.injEq, Option.isSome_iff_exists.mp accepted, and_true]
  case isFalse refused =>
    rw [Option.isSome_iff_exists] at refused
    simp only [refused, and_false, false_or]

/-- Every accepted input stands somewhere in the run, at the state the inputs before it
lead to. Witness: induction on the inputs.
-/
theorem mem_trace {state given : State} {inputs : List Input} {input : Input}
    (member : (given, input) ∈ machine.trace state inputs)
    : ∃ before after,
        inputs = before ++ input :: after
        ∧ given = machine.run state before
        ∧ ∃ later, machine.step given input = some later := by
  induction inputs generalizing state with
  | nil => simp [trace] at member
  | cons head rest ih =>
      rcases mem_trace_cons.mp member with ⟨rfl, rfl, accepted⟩ | later
      · exact ⟨[], rest, rfl, rfl, accepted⟩
      · obtain ⟨before, after, rfl, reached, accepted⟩ := ih later
        exact ⟨head :: before, after, rfl, reached, accepted⟩

/-- An accepted input is traced wherever it stands, by induction on the inputs before it. -/
theorem mem_trace_of_step {state later : State} {before : List Input} {input : Input}
    (accepted : machine.step (machine.run state before) input = some later)
    (after : List Input)
    : (machine.run state before, input) ∈ machine.trace state (before ++ input :: after) := by
  induction before generalizing state with
  | nil => exact mem_trace_cons.mpr (.inl ⟨rfl, rfl, later, accepted⟩)
  | cons head rest ih => exact mem_trace_cons.mpr (.inr (ih accepted))

/-- What is traced in a run stays traced when the run goes on. -/
theorem mem_trace_append {state : State} {accepted : State × Input} {before : List Input}
    (member : accepted ∈ machine.trace state before) (after : List Input)
    : accepted ∈ machine.trace state (before ++ after) := by
  obtain ⟨given, input⟩ := accepted
  obtain ⟨first, rest, rfl, rfl, later, stepped⟩ := mem_trace member
  rw [List.append_assoc, List.cons_append]
  exact mem_trace_of_step stepped (rest ++ after)

/-- What is traced in the rest of a run is traced in the run. -/
theorem mem_trace_rest {state : State} {accepted : State × Input} {before inputs : List Input}
    (member : accepted ∈ machine.trace (machine.run state before) inputs)
    : accepted ∈ machine.trace state (before ++ inputs) := by
  obtain ⟨given, input⟩ := accepted
  obtain ⟨first, rest, rfl, rfl, later, stepped⟩ := mem_trace member
  rw [← run_append] at stepped ⊢
  rw [← List.append_assoc]
  exact mem_trace_of_step stepped rest

/-- A property that every traced step keeps holds at the end of the run, by induction on
the inputs.
-/
theorem run_of_trace {Holds : State → Prop} {state : State} {inputs : List Input}
    (steps
      : ∀ given input after,
          (given, input) ∈ machine.trace state inputs
          → machine.step given input = some after
          → Holds given
          → Holds after)
    (holds : Holds state)
    : Holds (machine.run state inputs) := by
  induction inputs generalizing state with
  | nil => exact holds
  | cons input rest ih =>
      cases outcome : machine.step state input with
      | none =>
          have next : machine.next state input = state := next_of_refused outcome
          rw [run_cons, next]
          refine ih (fun given other after member => steps given other after ?_) holds
          simpa [trace, outcome, next] using member
      | some after =>
          have next : machine.next state input = after := next_of_step outcome
          rw [run_cons, next]
          refine ih (fun given other later member => steps given other later ?_) ?_
          · simp only [trace, outcome, Option.isSome_some, ↓reduceIte, next]
            exact List.mem_cons_of_mem _ member
          · refine steps state input after ?_ outcome holds
            simp [trace, outcome]

/-- What holds of every accepted step from an invariant state holds along the whole trace. -/
theorem Preserves.trace_forall {Holds : State → Prop} {Fact : State × Input → Prop}
    (preserves : machine.Preserves Holds)
    (delivers
      : ∀ state input after,
          Holds state → machine.step state input = some after → Fact (state, input))
    {state : State} (holds : Holds state) (inputs : List Input)
    : ∀ accepted ∈ machine.trace state inputs, Fact accepted := by
  rintro ⟨given, input⟩ member
  obtain ⟨before, after, rfl, rfl, later, accepted⟩ := mem_trace member
  exact delivers _ _ _ (preserves.run holds before) accepted

/-- Two accepted inputs are related when the earlier one leaves a promise behind that every
step keeps and that the later one meets. Witness: induction on the inputs, with the
promise carried along the tail as an invariant.
-/
theorem trace_pairwise {Promise : State × Input → State → Prop}
    {Related : State × Input → State × Input → Prop}
    (leaves
      : ∀ state input after,
          machine.step state input = some after → Promise (state, input) after)
    (keeps : ∀ earlier, machine.Preserves (Promise earlier))
    (meets
      : ∀ earlier state input after,
          Promise earlier state
          → machine.step state input = some after
          → Related earlier (state, input))
    (state : State) (inputs : List Input)
    : (machine.trace state inputs).Pairwise Related := by
  induction inputs generalizing state with
  | nil => exact List.Pairwise.nil
  | cons input rest ih =>
      unfold trace
      split
      case isFalse => exact ih (machine.next state input)
      case isTrue accepted =>
        obtain ⟨after, stepped⟩ := Option.isSome_iff_exists.mp accepted
        refine List.Pairwise.cons ?_ (ih (machine.next state input))
        refine (keeps (state, input)).trace_forall (meets (state, input)) ?_ rest
        rw [next_of_step stepped]
        exact leaves state input after stepped

/-- A log that every accepted input extends by its own entries lists the entries of the
accepted inputs in order, by induction on the inputs.
-/
theorem Preserves.log_run {Holds : State → Prop} (preserves : machine.Preserves Holds)
    (log : State → List Value) (entries : Input → List Value)
    (appends
      : ∀ state input after,
          Holds state
          → machine.step state input = some after
          → log after = log state ++ entries input)
    {state : State} (holds : Holds state) (inputs : List Input)
    : log (machine.run state inputs)
      = log state ++ (machine.trace state inputs).flatMap (fun accepted => entries accepted.2) := by
  induction inputs generalizing state with
  | nil => simp [trace]
  | cons input rest ih =>
      rw [run_cons, ih (preserves.next holds input)]
      cases outcome : machine.step state input with
      | none => simp [trace, outcome, next_of_refused outcome]
      | some after =>
          simp only [trace, outcome, next_of_step outcome, Option.isSome_some, ↓reduceIte,
            List.flatMap_cons, appends state input after holds outcome, List.append_assoc]

-----------------------------------------------------------------------------------------
-- Events along a run
-----------------------------------------------------------------------------------------

/-- How many inputs of a run are events, each judged in the state it is given to. -/
def tally (machine : Machine State Input) (event : State → Input → Bool)
    : State → List Input → Nat
  | _, [] => 0
  | state, input :: rest =>
      (if event state input then 1 else 0) + machine.tally event (machine.next state input) rest

/-- A counter that every event raises by one, up to a cap, counts the events of a run, by
induction on the inputs.
-/
theorem count_run {event : State → Input → Bool} (count : State → Nat) {cap : Nat}
    (counts
      : ∀ state input,
          count (machine.next state input)
            = min (count state + (if event state input then 1 else 0)) cap)
    {state : State} (capped : count state ≤ cap) (inputs : List Input)
    : count (machine.run state inputs)
      = min (count state + machine.tally event state inputs) cap := by
  induction inputs generalizing state with
  | nil => simp [tally, Nat.min_eq_left capped]
  | cons input rest ih =>
      have step := counts state input
      have below : count (machine.next state input) ≤ cap := by
        rw [step]
        exact Nat.min_le_right _ _
      rw [run_cons, ih below, step, tally]
      omega

/-- No input of a run is an event, each judged in the state it is given to. -/
def Quiet (machine : Machine State Input) (Event : State → Input → Prop)
    : State → List Input → Prop
  | _, [] => True
  | state, input :: rest =>
      ¬ Event state input ∧ machine.Quiet Event (machine.next state input) rest

/-- A quiet run is quiet from any of its intermediate states on, by prefix induction. -/
theorem Quiet.split {Event : State → Input → Prop} {state : State}
    {before after : List Input} (quiet : machine.Quiet Event state (before ++ after))
    : machine.Quiet Event state before
      ∧ machine.Quiet Event (machine.run state before) after := by
  induction before generalizing state with
  | nil => exact ⟨trivial, quiet⟩
  | cons input rest ih =>
      obtain ⟨calm, later⟩ := quiet
      obtain ⟨restQuiet, afterQuiet⟩ := ih later
      exact ⟨⟨calm, restQuiet⟩, afterQuiet⟩

/-- An observation that only events can write stays constant along a quiet run. -/
theorem Quiet.observe_run {Event : State → Input → Prop} (observe : State → Value)
    (frame
      : ∀ state input,
          ¬ Event state input → observe (machine.next state input) = observe state)
    {state : State} {inputs : List Input} (quiet : machine.Quiet Event state inputs)
    : observe (machine.run state inputs) = observe state := by
  induction inputs generalizing state with
  | nil => rfl
  | cons input rest ih =>
      obtain ⟨calm, later⟩ := quiet
      rw [run_cons, ih later, frame state input calm]

/-- Every run is quiet or has a last event. Witness: induction on the inputs; an event in
the tail is later than one at the head.
-/
theorem quiet_or_last_event (machine : Machine State Input)
    (Event : State → Input → Prop) (state : State) (inputs : List Input)
    : machine.Quiet Event state inputs
      ∨ ∃ before input after,
          inputs = before ++ input :: after
          ∧ Event (machine.run state before) input
          ∧ machine.Quiet Event (machine.next (machine.run state before) input) after := by
  induction inputs generalizing state with
  | nil => exact Or.inl trivial
  | cons input rest ih =>
      rcases ih (machine.next state input) with quiet | ⟨before, last, after, rfl, event, calm⟩
      · by_cases event : Event state input
        · exact Or.inr ⟨[], input, rest, rfl, event, quiet⟩
        · exact Or.inl ⟨event, quiet⟩
      · exact Or.inr ⟨input :: before, last, after, rfl, event, calm⟩

/-- What holds after a run but not before it came about at some input. Witness: induction on
the inputs; either the first input brought it about or a later one did.
-/
theorem exists_input_of_run (Holds : State → Prop) {state : State} {inputs : List Input}
    (not_yet : ¬ Holds state) (holds : Holds (machine.run state inputs))
    : ∃ before input after,
        inputs = before ++ input :: after
        ∧ ¬ Holds (machine.run state before)
        ∧ Holds (machine.next (machine.run state before) input) := by
  induction inputs generalizing state with
  | nil => exact absurd holds not_yet
  | cons input rest ih =>
      by_cases here : Holds (machine.next state input)
      · exact ⟨[], input, rest, rfl, not_yet, here⟩
      · obtain ⟨before, later, after, rfl, still, reached⟩ := ih here holds
        exact ⟨input :: before, later, after, rfl, still, reached⟩

/-- Every input has a property of the inputs before it. -/
def Throughout (Holds : List Input → Input → Prop) : List Input → List Input → Prop
  | _, [] => True
  | before, input :: rest => Holds before input ∧ Throughout Holds (before ++ [input]) rest

/-- The property holds wherever the inputs are cut, by induction on the part before the cut. -/
theorem Throughout.at_split {Holds : List Input → Input → Prop} {earlier before after : List Input}
    {input : Input} (throughout : Throughout Holds earlier (before ++ input :: after))
    : Holds (earlier ++ before) input := by
  induction before generalizing earlier with
  | nil => simpa using throughout.1
  | cons first rest ih => simpa using ih throughout.2

-----------------------------------------------------------------------------------------
-- Two runs
-----------------------------------------------------------------------------------------

/-- Two runs over the same inputs stay related when every input keeps its two sides related,
by induction on the inputs.
-/
theorem run_related {Related : State → State → Prop}
    (keeps
      : ∀ left right input,
          Related left right → Related (machine.next left input) (machine.next right input))
    {left right : State} (related : Related left right) (inputs : List Input)
    : Related (machine.run left inputs) (machine.run right inputs) := by
  induction inputs generalizing left right with
  | nil => exact related
  | cons input rest ih => exact ih (keeps left right input related)

-----------------------------------------------------------------------------------------
-- Simulation
-----------------------------------------------------------------------------------------

/-- A concrete machine simulates an abstract one when each of its inputs acts on the
abstract image as the inputs it translates to.
-/
structure Simulates (concrete : Machine Concrete Command) (abstract : Machine State Input)
    where
  image : Concrete → State
  translate : Concrete → Command → List Input
  commutes
    : ∀ state command,
        image (concrete.next state command)
          = abstract.run (image state) (translate state command)

/-- The abstract inputs of a whole concrete run. -/
def Simulates.translateRun {concrete : Machine Concrete Command}
    {abstract : Machine State Input} (simulation : concrete.Simulates abstract)
    : Concrete → List Command → List Input
  | _, [] => []
  | state, command :: rest =>
      simulation.translate state command
        ++ simulation.translateRun (concrete.next state command) rest

/-- The image of a concrete run is the abstract run over its translated inputs. -/
theorem Simulates.image_run {concrete : Machine Concrete Command}
    {abstract : Machine State Input} (simulation : concrete.Simulates abstract)
    (state : Concrete) (commands : List Command)
    : simulation.image (concrete.run state commands)
      = abstract.run (simulation.image state) (simulation.translateRun state commands) := by
  induction commands generalizing state with
  | nil => rfl
  | cons command rest ih =>
      rw [run_cons, ih, simulation.commutes, translateRun, run_append]

end Machine

-----------------------------------------------------------------------------------------
-- Tables
-----------------------------------------------------------------------------------------

/-- A property of every entry survives the writing of an entry that has it. -/
theorem forall_update {Key Entry : Type} [DecidableEq Key] {table : Key → Option Entry}
    {Holds : Key → Entry → Prop} (every : ∀ key entry, table key = some entry → Holds key entry)
    {written : Key} {value : Entry} (holds : Holds written value)
    : ∀ key entry,
        Function.update table written (some value) key = some entry → Holds key entry := by
  intro key entry found
  by_cases same : key = written
  · subst same
    rw [Function.update_self] at found
    cases found
    exact holds
  · rw [Function.update_of_ne same] at found
    exact every key entry found

end Transitions
