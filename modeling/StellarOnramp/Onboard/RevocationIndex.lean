import StellarOnramp.Library.DurableStore
import StellarOnramp.Library.Json
import Mathlib.Data.List.Pairwise

/-! The allocator of revocation indexes that keeps its counter in a file. Calls wait for each
other in a chain of promises, and the counter is written before an index is returned.
-/

namespace StellarOnramp.Onboard

open JsText
open DurableStore
open Transitions

-----------------------------------------------------------------------------------------
-- The counter and its file
-----------------------------------------------------------------------------------------

/-- The value that `JSON.stringify` writes and `JSON.parse` reads back. -/
def allocatorFile (next : Nat) : Json.Value :=
  .object [(js "version", .number 1), (js "next", .number next)]

/-- The constructor; `none` is its refusal to guess. -/
def loadAllocator : Option (Image Json.Value) → Option Nat
  | none => some 0
  | some .torn => none
  | some (.whole raw) =>
      match raw.get (js "version"), raw.get (js "next") with
      | some (.number 1), some (.number next) => if 0 ≤ next then some next.toNat else none
      | _, _ => none

theorem loadAllocator_file (next : Nat)
    : loadAllocator (some (.whole (allocatorFile next))) = some next := by
  have version : (allocatorFile next).get (js "version") = some (.number 1) := rfl
  have stored : (allocatorFile next).get (js "next") = some (.number next) := rfl
  simp [loadAllocator, version, stored]

/-- The callback of `allocate`: count up, write, return. -/
def allocator : Store Nat Json.Value Unit Nat Unit where
  load _ := loadAllocator
  save := allocatorFile
  effect next _ := { writes := [next + 1], memory := next + 1, answer := next }

-----------------------------------------------------------------------------------------
-- Promises
-----------------------------------------------------------------------------------------

inductive Settlement (Value : Type) where
  | pending
  | fulfilled (value : Value)
  | rejected
  deriving DecidableEq

def Settlement.value? {Value : Type} : Settlement Value → Option Value
  | .fulfilled value => some value
  | _ => none

/-- One call of `allocate`: the promise it returned, and the link that the next call waits
for.
-/
structure Allocation where
  result : Settlement Nat
  chain : Settlement Unit

/-- A call as it is made: nothing is settled. -/
def waitingCall : Allocation := { result := .pending, chain := .pending }

/-- The indexes that the promises of some calls are fulfilled with, in the order of the
calls.
-/
def fulfilledIndexes (allocations : List Allocation) : List Nat :=
  allocations.filterMap (fun allocation => allocation.result.value?)

/-- The link before a call; the first call waits for a promise that is resolved. -/
def chainBefore (allocations : List Allocation) : Nat → Settlement Unit
  | 0 => .fulfilled ()
  | position + 1 =>
      match allocations[position]? with
      | some allocation => allocation.chain
      | none => .pending

/-- Both handlers of a link return `undefined`. -/
def settleChain : Settlement Nat → Settlement Unit
  | .pending => .pending
  | .fulfilled _ => .fulfilled ()
  | .rejected => .fulfilled ()

/-- The file, the counter of the process, its calls in order, those of the processes before
it, and every index in the order in which they were returned.
-/
structure AllocatorState where
  world : World Nat Json.Value
  ended : List Allocation
  allocations : List Allocation
  returned : List Nat

/-- No process runs yet. -/
def AllocatorState.off (disk : Disk Json.Value) : AllocatorState :=
  { world := { disk, memory := none }, ended := [], allocations := [], returned := [] }

/-- A process starts or stops: it leaves the calls of the one before it as they are. -/
def AllocatorState.handedOver (state : AllocatorState) (world : World Nat Json.Value)
    : AllocatorState :=
  { state with world, ended := state.ended ++ state.allocations, allocations := [] }

inductive AllocatorEvent where
  | allocate
  /-- The callback of a call runs. -/
  | task (position : Nat) (reached : Reached)
  /-- The handler of the link behind a call runs. -/
  | settle (position : Nat)
  /-- The process stops, in a callback or between two. -/
  | crash (during : Option (Nat × Reached))
  | restart

/-- The link that a pending call waits for; `none` if the call is not pending. -/
def awaited (allocations : List Allocation) (position : Nat) : Option (Settlement Unit) :=
  match (allocations[position]?).map Allocation.result with
  | some .pending => some (chainBefore allocations position)
  | _ => none

/-- A callback ran: its promise is settled, and a returned index is recorded. -/
def AllocatorState.answered (state : AllocatorState) (world : World Nat Json.Value)
    (position : Nat)
    : Option Nat → AllocatorState
  | some index =>
      { state with
        world
        allocations :=
          state.allocations.modify position
            (fun allocation => { allocation with result := .fulfilled index })
        returned := state.returned ++ [index]
      }
  | none =>
      { state with
        world
        allocations :=
          state.allocations.modify position
            (fun allocation => { allocation with result := .rejected })
      }

/-- The handler behind a call ran. -/
def Allocation.linked (allocation : Allocation) : Allocation :=
  { allocation with chain := settleChain allocation.result }

def AllocatorState.linked (state : AllocatorState) (position : Nat) : AllocatorState :=
  { state with allocations := state.allocations.modify position Allocation.linked }

/-- All runs of the allocator in one process after another. -/
def allocatorMachine : Machine AllocatorState AllocatorEvent where
  step state event :=
    match event with
    | .allocate =>
        state.world.memory.map (fun _ =>
          { state with allocations := state.allocations ++ [waitingCall] })
    | .task position reached =>
        match awaited state.allocations position with
        | some (.fulfilled ()) =>
            (allocator.perform state.world () [reached]).map (fun (world, answer) =>
              state.answered world position answer)
        -- A rejected link would reject every call behind it.
        | some .rejected => some (state.answered state.world position none)
        | _ => none
    | .settle position =>
        if (state.allocations[position]?).map Allocation.chain = some .pending then
          some (state.linked position)
        else
          none
    | .crash none => some (state.handedOver state.world.stop)
    | .crash (some (position, reached)) =>
        match awaited state.allocations position with
        | some (.fulfilled ()) =>
            (allocator.perform state.world () [reached]).map (fun (world, _) =>
              state.handedOver world.stop)
        | _ => none
    | .restart => (allocator.restart state.world ()).map state.handedOver

/-- What one event can do. -/
theorem allocatorMachine_cases {state after : AllocatorState} {event : AllocatorEvent}
    (stepped : allocatorMachine.step state event = some after)
    : (∃ next,
          state.world.memory = some next
          ∧ after = { state with allocations := state.allocations ++ [waitingCall] })
      ∨ (∃ position reached world answer,
          awaited state.allocations position = some (.fulfilled ())
          ∧ allocator.perform state.world () [reached] = some (world, answer)
          ∧ after = state.answered world position answer)
      ∨ (∃ position,
          awaited state.allocations position = some .rejected
          ∧ after = state.answered state.world position none)
      ∨ (∃ position,
          (state.allocations[position]?).map Allocation.chain = some .pending
          ∧ after = state.linked position)
      ∨ (∃ world,
          (world = state.world
            ∨ ∃ reached answer, allocator.perform state.world () [reached] = some (world, answer))
          ∧ after = state.handedOver world.stop)
      ∨ ∃ world,
          allocator.restart state.world () = some world ∧ after = state.handedOver world := by
  cases event with
  | allocate =>
      obtain ⟨next, live, rfl⟩ := Option.map_eq_some_iff.mp stepped
      exact .inl ⟨next, live, rfl⟩
  | task position reached =>
      simp only [allocatorMachine] at stepped
      split at stepped
      case h_1 first =>
        obtain ⟨⟨world, answer⟩, performed, rfl⟩ := Option.map_eq_some_iff.mp stepped
        exact .inr (.inl ⟨position, reached, world, answer, first, performed, rfl⟩)
      case h_2 broken =>
        cases stepped
        exact .inr (.inr (.inl ⟨position, broken, rfl⟩))
      case h_3 => cases stepped
  | settle position =>
      simp only [allocatorMachine] at stepped
      split at stepped
      case isTrue waits =>
        cases stepped
        exact .inr (.inr (.inr (.inl ⟨position, waits, rfl⟩)))
      case isFalse => cases stepped
  | crash during =>
      cases during with
      | none =>
          cases stepped
          exact .inr (.inr (.inr (.inr (.inl ⟨state.world, .inl rfl, rfl⟩))))
      | some interrupted =>
          obtain ⟨position, reached⟩ := interrupted
          simp only [allocatorMachine] at stepped
          split at stepped
          case h_2 => cases stepped
          case h_1 =>
            obtain ⟨⟨world, answer⟩, performed, rfl⟩ := Option.map_eq_some_iff.mp stepped
            have ran : ∃ reached answer, allocator.perform state.world () [reached]
                = some (world, answer) :=
              ⟨reached, answer, performed⟩
            exact .inr (.inr (.inr (.inr (.inl ⟨world, .inr ran, rfl⟩))))
  | restart =>
      obtain ⟨world, restarted, rfl⟩ := Option.map_eq_some_iff.mp stepped
      exact .inr (.inr (.inr (.inr (.inr ⟨world, restarted, rfl⟩))))

-----------------------------------------------------------------------------------------
-- Indexes are returned once
-----------------------------------------------------------------------------------------

/-- A callback counts up; it returns the old counter if the file holds the new one. -/
theorem perform_allocator {world after : World Nat Json.Value} {reached : Reached}
    {answer : Option Nat} (performed : allocator.perform world () [reached] = some (after, answer))
    : ∃ next,
        world.memory = some next
        ∧ after.memory = some (next + 1)
        ∧ (after.disk.file = some (.whole (allocatorFile (next + 1))) ∧ answer = some next
          ∨ after.disk.file = world.disk.file ∧ answer = none) := by
  obtain ⟨next, live, ⟨rfl, counted, file⟩ | ⟨done, unwritten, rest, split, rfl, counted, file⟩⟩ :=
    Store.perform_cases performed
  · exact ⟨next, live, counted, .inl ⟨file, rfl⟩⟩
  · obtain ⟨rfl, rfl, -⟩ := single_split split
    exact ⟨next, live, counted, .inr ⟨file, rfl⟩⟩

/-- Every index that was returned is below the counter, in the file and in memory. -/
structure Counted (state : AllocatorState) : Prop where
  file
    : ∀ next,
        loadAllocator state.world.disk.file = some next → ∀ index ∈ state.returned, index < next
  memory
    : ∀ next, state.world.memory = some next → ∀ index ∈ state.returned, index < next
  increasing : state.returned.Pairwise (fun earlier later => earlier < later)

theorem counted_off (disk : Disk Json.Value) : Counted (AllocatorState.off disk) where
  file _ _ _ member := by cases member
  memory _ _ _ member := by cases member
  increasing := List.Pairwise.nil

/-- A callback keeps the counters ahead of what it returns. -/
theorem Counted.answered {state : AllocatorState} {world : World Nat Json.Value}
    {reached : Reached} {answer : Option Nat} (counted : Counted state)
    (performed : allocator.perform state.world () [reached] = some (world, answer))
    (position : Nat)
    : Counted (state.answered world position answer) := by
  obtain ⟨next, live, after, ⟨written, rfl⟩ | ⟨kept, rfl⟩⟩ := perform_allocator performed
  · have below : ∀ index ∈ state.returned ++ [next], index < next + 1 := by
      intro index member
      rcases List.mem_append.mp member with earlier | last
      · exact (counted.memory next live index earlier).trans (Nat.lt_succ_self next)
      · rw [List.mem_singleton.mp last]
        exact Nat.lt_succ_self next
    refine { file := ?_, memory := ?_, increasing := ?_ }
    · intro loaded found
      simp only [AllocatorState.answered, written, loadAllocator_file] at found
      cases found
      exact below
    · intro current found
      cases after.symm.trans found
      exact below
    · refine List.pairwise_append.mpr ⟨counted.increasing, List.pairwise_singleton _ _, ?_⟩
      intro earlier member last here
      rw [List.mem_singleton.mp here]
      exact counted.memory next live earlier member
  · refine { file := ?_, memory := ?_, increasing := counted.increasing }
    · intro loaded found
      simp only [AllocatorState.answered, kept] at found
      exact counted.file loaded found
    · intro current found index member
      cases after.symm.trans found
      exact (counted.memory next live index member).trans (Nat.lt_succ_self next)

/-- The counter that a callback leaves in the file is ahead, whether or not its index is
returned.
-/
theorem Counted.file_performed {state : AllocatorState} {world : World Nat Json.Value}
    {reached : Reached} {answer : Option Nat} (counted : Counted state)
    (performed : allocator.perform state.world () [reached] = some (world, answer))
    {next : Nat} (loaded : loadAllocator world.disk.file = some next)
    : ∀ index ∈ state.returned, index < next := by
  obtain ⟨current, live, -, ⟨written, -⟩ | ⟨kept, -⟩⟩ := perform_allocator performed
  · rw [written, loadAllocator_file] at loaded
    cases loaded
    exact fun index member => (counted.memory current live index member).trans (Nat.lt_succ_self _)
  · rw [kept] at loaded
    exact counted.file next loaded

/-- One event keeps the counters ahead. -/
theorem counted_preserved : allocatorMachine.Preserves Counted := by
  intro state event after counted stepped
  rcases allocatorMachine_cases stepped with
    ⟨_, -, rfl⟩ | ⟨position, _, _, _, -, performed, rfl⟩ | ⟨_, -, rfl⟩ | ⟨_, -, rfl⟩
      | ⟨world, stopping, rfl⟩ | ⟨world, restarted, rfl⟩
  · exact { counted with }
  · exact counted.answered performed position
  · exact { counted with }
  · exact { counted with }
  · refine { file := ?_, memory := fun _ live => (by cases live), increasing := counted.increasing }
    rcases stopping with rfl | ⟨reached, answer, performed⟩
    · exact counted.file
    · exact fun next loaded => counted.file_performed performed loaded
  · obtain ⟨-, disk, next, loaded, live⟩ := Store.restart_eq_some restarted
    refine { file := ?_, memory := ?_, increasing := counted.increasing }
    · intro current found
      exact counted.file current (disk ▸ found)
    · intro current found
      cases live.symm.trans found
      exact counted.file next loaded

-----------------------------------------------------------------------------------------
-- What is recorded is what the promises give
-----------------------------------------------------------------------------------------

/-- Calls are served in order: the settled ones come first, the others are as they were made.
-/
def InOrder (allocations : List Allocation) : Prop :=
  ∃ served waiting,
    allocations = served ++ List.replicate waiting waitingCall
    ∧ ∀ allocation ∈ served, allocation.result ≠ .pending

theorem fulfilledIndexes_append (left right : List Allocation)
    : fulfilledIndexes (left ++ right) = fulfilledIndexes left ++ fulfilledIndexes right :=
  List.filterMap_append

theorem fulfilledIndexes_waiting (waiting : Nat)
    : fulfilledIndexes (List.replicate waiting waitingCall) = [] :=
  List.filterMap_replicate_of_none rfl

/-- A change of the element behind a prefix. -/
theorem modify_behind (served : List Allocation) (change : Allocation → Allocation)
    (allocation : Allocation) (rest : List Allocation)
    : (served ++ allocation :: rest).modify served.length change
      = served ++ change allocation :: rest :=
  List.modifyTailIdx_add (List.modifyHead change) 0 served (allocation :: rest)

theorem awaited_eq_some {allocations : List Allocation} {position : Nat}
    {link : Settlement Unit} (awaits : awaited allocations position = some link)
    : ∃ allocation,
        allocations[position]? = some allocation
        ∧ allocation.result = .pending
        ∧ chainBefore allocations position = link := by
  unfold awaited at awaits
  split at awaits
  case h_1 waits =>
    obtain ⟨allocation, found, pending⟩ := Option.map_eq_some_iff.mp waits
    exact ⟨allocation, found, pending, Option.some.inj awaits⟩
  case h_2 => cases awaits

/-- Behind the settled calls no link is settled. -/
theorem pending_of_served_le {served : List Allocation} {waiting place : Nat}
    (behind : served.length ≤ place)
    : chainBefore (served ++ List.replicate waiting waitingCall) (place + 1) = .pending := by
  rw [chainBefore, List.getElem?_append_right behind, List.getElem?_replicate]
  split <;> rename_i found
  · split at found
    · cases found
      rfl
    · cases found
  · rfl

/-- The call whose turn it is comes right behind the settled ones. -/
theorem InOrder.turn {allocations : List Allocation} (inOrder : InOrder allocations)
    {position : Nat} {link : Settlement Unit}
    (awaits : awaited allocations position = some link) (settled : link ≠ .pending)
    : ∃ served waiting,
        allocations = served ++ waitingCall :: List.replicate waiting waitingCall
        ∧ served.length = position
        ∧ ∀ allocation ∈ served, allocation.result ≠ .pending := by
  obtain ⟨served, waiting, rfl, done⟩ := inOrder
  obtain ⟨allocation, found, pending, first⟩ := awaited_eq_some awaits
  have inside := (List.getElem?_eq_some_iff.mp found).1
  rw [List.length_append, List.length_replicate] at inside
  have reached : served.length ≤ position := by
    by_contra earlier
    rw [List.getElem?_append_left (by omega)] at found
    exact done allocation (List.mem_of_getElem? found) pending
  have next : position ≤ served.length := by
    cases position with
    | zero => exact Nat.zero_le _
    | succ place =>
        by_contra later
        exact settled (first.symm.trans (pending_of_served_le (by omega)))
  obtain ⟨others, rfl⟩ : ∃ others, waiting = others + 1 := ⟨waiting - 1, by omega⟩
  exact ⟨served, others, by rw [List.replicate_succ], by omega, done⟩

/-- Every index that was returned is the one that a promise is fulfilled with, and the other
way round; both are in the order of the calls.
-/
structure Recorded (state : AllocatorState) : Prop where
  inOrder : InOrder state.allocations
  log : state.returned = fulfilledIndexes (state.ended ++ state.allocations)

theorem inOrder_nil : InOrder [] :=
  ⟨[], 0, rfl, fun _ member => by cases member⟩

theorem recorded_off (disk : Disk Json.Value) : Recorded (AllocatorState.off disk) where
  inOrder := inOrder_nil
  log := rfl

/-- A callback that runs in its turn fulfils or rejects the next call, and records what it
returns.
-/
theorem Recorded.answered {state : AllocatorState} (recorded : Recorded state)
    {position : Nat} {link : Settlement Unit}
    (awaits : awaited state.allocations position = some link) (settled : link ≠ .pending)
    (world : World Nat Json.Value) (answer : Option Nat)
    : Recorded (state.answered world position answer) := by
  obtain ⟨served, waiting, calls, rfl, done⟩ := recorded.inOrder.turn awaits settled
  have before : state.returned = fulfilledIndexes (state.ended ++ served) := by
    rw [recorded.log, calls]
    simp [fulfilledIndexes_append, ← List.replicate_succ, fulfilledIndexes_waiting]
  have after (result : Settlement Nat)
      : state.allocations.modify served.length (fun allocation => { allocation with result })
        = (served ++ [{ waitingCall with result }]) ++ List.replicate waiting waitingCall := by
    rw [calls, modify_behind, List.append_assoc]
    rfl
  have ordered (result : Settlement Nat) (ended : result ≠ .pending)
      : InOrder
          (state.allocations.modify served.length (fun allocation =>
            { allocation with result })) := by
    refine ⟨_, waiting, after result, fun allocation member => ?_⟩
    rcases List.mem_append.mp member with earlier | last
    · exact done allocation earlier
    · rw [List.mem_singleton.mp last]
      exact ended
  cases answer with
  | none =>
      refine { inOrder := ordered .rejected nofun, log := ?_ }
      simp only [AllocatorState.answered, after, before, fulfilledIndexes_append,
        fulfilledIndexes_waiting, List.append_nil]
      exact congrArg _ (List.append_nil _).symm
  | some index =>
      refine { inOrder := ordered (.fulfilled index) nofun, log := ?_ }
      simp only [AllocatorState.answered, after, before, fulfilledIndexes_append,
        fulfilledIndexes_waiting, List.append_nil, List.append_assoc]
      rfl

/-- A handler leaves the promises as they are. -/
theorem map_result_linked (allocations : List Allocation) (position : Nat)
    : (allocations.modify position Allocation.linked).map Allocation.result
      = allocations.map Allocation.result := by
  refine List.ext_getElem? fun place => ?_
  rw [List.getElem?_map, List.getElem?_modify, List.getElem?_map, Option.map_eq_map,
    Option.map_map]
  congr 1
  funext allocation
  simp only [Function.comp]
  split <;> rfl

theorem fulfilledIndexes_eq_of_results {left right : List Allocation}
    (same : left.map Allocation.result = right.map Allocation.result)
    : fulfilledIndexes left = fulfilledIndexes right := by
  have results (allocations : List Allocation)
      : fulfilledIndexes allocations
        = (allocations.map Allocation.result).filterMap Settlement.value? := by
    rw [List.filterMap_map]
    rfl
  rw [results, results, same]

/-- A change that leaves a call as it was made keeps the calls that wait. -/
theorem modify_waiting {change : Allocation → Allocation}
    (unchanged : change waitingCall = waitingCall) (served : List Allocation)
    (waiting position : Nat)
    : (served ++ List.replicate waiting waitingCall).modify position change
      = served.modify position change ++ List.replicate waiting waitingCall := by
  induction served generalizing position with
  | nil =>
      refine List.ext_getElem? fun place => ?_
      simp only [List.nil_append, List.modify_nil, List.getElem?_modify, List.getElem?_replicate]
      split <;> simp [unchanged]
  | cons allocation served ih =>
      cases position with
      | zero => rfl
      | succ place => exact congrArg (allocation :: ·) (ih place)

/-- A handler leaves the order of the calls, and what their promises give. -/
theorem Recorded.linked {state : AllocatorState} (recorded : Recorded state)
    (position : Nat)
    : Recorded (state.linked position) := by
  obtain ⟨served, waiting, calls, done⟩ := recorded.inOrder
  refine { inOrder := ⟨served.modify position .linked, waiting, ?_, ?_⟩, log := ?_ }
  · rw [AllocatorState.linked, calls]
    exact modify_waiting rfl served waiting position
  · intro allocation member
    have result := List.mem_map_of_mem (f := Allocation.result) member
    rw [map_result_linked] at result
    obtain ⟨before, earlier, same⟩ := List.mem_map.mp result
    exact same ▸ done before earlier
  · rw [AllocatorState.linked, recorded.log, fulfilledIndexes_append, fulfilledIndexes_append,
      fulfilledIndexes_eq_of_results (map_result_linked state.allocations position)]

theorem Recorded.handedOver {state : AllocatorState} (recorded : Recorded state)
    (world : World Nat Json.Value)
    : Recorded (state.handedOver world) where
  inOrder := inOrder_nil
  log := by simp only [AllocatorState.handedOver, List.append_nil, recorded.log]

theorem recorded_preserved : allocatorMachine.Preserves Recorded := by
  intro state event after recorded stepped
  rcases allocatorMachine_cases stepped with
    ⟨_, -, rfl⟩ | ⟨position, _, world, answer, first, -, rfl⟩ | ⟨position, broken, rfl⟩
      | ⟨position, -, rfl⟩ | ⟨world, -, rfl⟩ | ⟨world, -, rfl⟩
  · obtain ⟨served, waiting, calls, done⟩ := recorded.inOrder
    refine { inOrder := ⟨served, waiting + 1, ?_, done⟩, log := ?_ }
    · simp only [calls, List.replicate_succ', List.append_assoc]
    · simp only [recorded.log, fulfilledIndexes_append]
      exact congrArg _ (List.append_nil _).symm
  · exact recorded.answered first nofun world answer
  · exact recorded.answered broken nofun state.world none
  · exact recorded.linked position
  · exact recorded.handedOver world.stop
  · exact recorded.handedOver world

-----------------------------------------------------------------------------------------
-- No call blocks a later one
-----------------------------------------------------------------------------------------

/-- No link of the chain is rejected. -/
def Unbroken (allocations : List Allocation) : Prop :=
  ∀ (position : Nat) (allocation : Allocation),
    allocations[position]? = some allocation → allocation.chain ≠ .rejected

/-- Calls belong to a running process, and the chain between them is unbroken. -/
structure Serving (state : AllocatorState) : Prop where
  live : state.allocations ≠ [] → state.world.memory.isSome
  unbroken : Unbroken state.allocations

theorem serving_off (disk : Disk Json.Value) : Serving (AllocatorState.off disk) where
  live calls := absurd rfl calls
  unbroken _ _ found := by cases found

/-- A change to one call that breaks no link. -/
theorem unbroken_modify {allocations : List Allocation} {change : Allocation → Allocation}
    {position : Nat}
    (unbroken : Unbroken allocations)
    (keeps : ∀ allocation, allocation.chain ≠ .rejected → (change allocation).chain ≠ .rejected)
    : Unbroken (allocations.modify position change) := by
  intro other allocation found
  rw [List.getElem?_modify] at found
  obtain ⟨before, known, rfl⟩ := Option.map_eq_some_iff.mp found
  have whole := unbroken other before known
  split
  case isTrue => exact keeps before whole
  case isFalse => exact whole

theorem settleChain_ne_rejected (result : Settlement Nat) : settleChain result ≠ .rejected := by
  cases result <;> simp [settleChain]

theorem settleChain_of_settled {result : Settlement Nat} (settled : result ≠ .pending)
    : settleChain result = .fulfilled () := by
  cases result with
  | pending => exact absurd rfl settled
  | fulfilled index => rfl
  | rejected => rfl

theorem Serving.answered {state : AllocatorState} (serving : Serving state)
    {world : World Nat Json.Value} (live : world.memory.isSome) (position : Nat)
    (answer : Option Nat)
    : Serving (state.answered world position answer) := by
  cases answer with
  | none =>
      exact {
        live := fun _ => live
        unbroken := unbroken_modify serving.unbroken (fun _ whole => whole)
      }
  | some index =>
      exact {
        live := fun _ => live
        unbroken := unbroken_modify serving.unbroken (fun _ whole => whole)
      }

theorem Serving.handedOver (state : AllocatorState) (world : World Nat Json.Value)
    : Serving (state.handedOver world) where
  live calls := absurd rfl calls
  unbroken _ _ found := by cases found

/-- A process runs while one of its calls is known. -/
theorem Serving.live_of_found {state : AllocatorState} (serving : Serving state)
    {position : Nat} {allocation : Allocation}
    (found : state.allocations[position]? = some allocation)
    : state.world.memory.isSome :=
  serving.live (List.ne_nil_of_mem (List.mem_of_getElem? found))

/-- One event keeps the calls served. -/
theorem serving_preserved : allocatorMachine.Preserves Serving := by
  intro state event after serving stepped
  rcases allocatorMachine_cases stepped with
    ⟨next, running, rfl⟩ | ⟨position, _, world, answer, -, performed, rfl⟩
      | ⟨position, broken, rfl⟩ | ⟨position, waits, rfl⟩ | ⟨world, -, rfl⟩ | ⟨world, -, rfl⟩
  · refine { live := fun _ => by simp [running], unbroken := ?_ }
    intro position allocation found
    rcases List.mem_append.mp (List.mem_of_getElem? found) with earlier | last
    · obtain ⟨place, known⟩ := List.mem_iff_getElem?.mp earlier
      exact serving.unbroken place allocation known
    · rw [List.mem_singleton.mp last]
      exact nofun
  · obtain ⟨next, -, counted, -⟩ := perform_allocator performed
    exact serving.answered (by simp [counted]) position answer
  · obtain ⟨allocation, found, -⟩ := awaited_eq_some broken
    exact serving.answered (serving.live_of_found found) position none
  · obtain ⟨allocation, found, -⟩ := Option.map_eq_some_iff.mp waits
    exact {
      live := fun _ => serving.live_of_found found
      unbroken := unbroken_modify serving.unbroken (fun _ _ => settleChain_ne_rejected _)
    }
  · exact Serving.handedOver state world.stop
  · exact Serving.handedOver state world

/-- What was returned stays recorded. -/
theorem returned_preserved (earlier : List Nat)
    : allocatorMachine.Preserves (fun state => earlier ⊆ state.returned) := by
  intro state event after kept stepped
  rcases allocatorMachine_cases stepped with
    ⟨_, -, rfl⟩ | ⟨_, _, _, answer, -, -, rfl⟩ | ⟨_, -, rfl⟩ | ⟨_, -, rfl⟩ | ⟨_, -, rfl⟩
      | ⟨_, -, rfl⟩
  · exact kept
  · cases answer with
    | none => exact kept
    | some index => exact List.Subset.trans kept (List.subset_append_left _ _)
  · exact kept
  · exact kept
  · exact kept
  · exact kept

/-- The callback of a call and the handler behind it. -/
def turn (outcome : Nat → Reached) (position : Nat) : List AllocatorEvent :=
  [.task position (outcome position), .settle position]

/-- The turns of the first calls, each with what its write reaches. -/
def turns (outcome : Nat → Reached) : Nat → List AllocatorEvent
  | 0 => []
  | count + 1 => turns outcome count ++ turn outcome count

/-- How a pending call ends when its write gets as far as given: with an index above all that
were returned, or rejected.
-/
def EndsAs (returned : List Nat) (reached : Reached) (result : Settlement Nat) : Prop :=
  if reached = .renamed then
    ∃ index, result = .fulfilled index ∧ ∀ earlier ∈ returned, earlier < index
  else
    result = .rejected

theorem EndsAs.mono {returned later : List Nat} {reached : Reached} {result : Settlement Nat}
    (ends : EndsAs later reached result) (kept : returned ⊆ later)
    : EndsAs returned reached result := by
  unfold EndsAs at ends ⊢
  split_ifs at ends ⊢
  · obtain ⟨index, fulfilled, above⟩ := ends
    exact ⟨index, fulfilled, fun earlier member => above earlier (kept member)⟩
  · exact ends

theorem next_task {state : AllocatorState} {position : Nat} {reached : Reached}
    {world : World Nat Json.Value} {answer : Option Nat}
    (runnable : awaited state.allocations position = some (.fulfilled ()))
    (performed : allocator.perform state.world () [reached] = some (world, answer))
    : allocatorMachine.next state (.task position reached)
      = state.answered world position answer :=
  Machine.next_of_step (by simp only [allocatorMachine, runnable, performed, Option.map_some])

/-- The callback of a call whose turn it is settles the call and no other. -/
theorem task_settles {state : AllocatorState} (serving : Serving state)
    (counted : Counted state) {position : Nat} {allocation : Allocation} (reached : Reached)
    (found : state.allocations[position]? = some allocation)
    (first : chainBefore state.allocations position = .fulfilled ())
    : ∃ result,
        result ≠ .pending
        ∧ (allocation.result = .pending → EndsAs state.returned reached result)
        ∧ (allocatorMachine.next state (.task position reached)).allocations
          = state.allocations.modify position (fun allocation => { allocation with result }) := by
  by_cases waits : allocation.result = .pending
  case neg =>
    have refused : allocatorMachine.step state (.task position reached) = none := by
      have unawaited : awaited state.allocations position = none := by
        simp [awaited, found, waits]
      simp only [allocatorMachine, unawaited]
    refine ⟨allocation.result, waits, fun pending => absurd pending waits, ?_⟩
    rw [Machine.next_of_refused refused]
    refine List.ext_getElem? fun other => ?_
    rw [List.getElem?_modify]
    by_cases here : position = other
    · subst here
      simp [found]
    · simp [here]
  case pos =>
    have runnable : awaited state.allocations position = some (.fulfilled ()) := by
      simp [awaited, found, waits, first]
    obtain ⟨next, live⟩ := Option.isSome_iff_exists.mp (serving.live_of_found found)
    have performed :=
      Store.perform_single live
        (show (allocator.effect next ()).writes = [next + 1] from rfl) reached
    by_cases landed : reached = .renamed
    · rw [if_pos landed] at performed
      rw [next_task runnable performed]
      refine ⟨.fulfilled next, nofun, fun _ => ?_, rfl⟩
      rw [EndsAs, if_pos landed]
      exact ⟨next, rfl, counted.memory next live⟩
    · rw [if_neg landed] at performed
      rw [next_task runnable performed]
      refine ⟨.rejected, nofun, fun _ => ?_, rfl⟩
      rw [EndsAs, if_neg landed]

/-- The handler behind a settled call fulfils the link. -/
theorem settle_fulfils {state : AllocatorState} (unbroken : Unbroken state.allocations)
    {position : Nat} {allocation : Allocation}
    (found : state.allocations[position]? = some allocation)
    (settled : allocation.result ≠ .pending)
    : ∃ after,
        (allocatorMachine.next state (.settle position)).allocations = after
        ∧ after[position]? = some { allocation with chain := .fulfilled () }
        ∧ ∀ other, other ≠ position → after[other]? = state.allocations[other]? := by
  refine ⟨_, rfl, ?_⟩
  cases link : allocation.chain with
  | rejected => exact absurd link (unbroken position allocation found)
  | fulfilled _ =>
      have refused : allocatorMachine.step state (.settle position) = none := by
        simp [allocatorMachine, found, link]
      rw [Machine.next_of_refused refused]
      refine ⟨?_, fun _ _ => rfl⟩
      rw [found, ← link]
  | pending =>
      have stepped
          : allocatorMachine.step state (.settle position)
            = some (state.linked position) := by
        simp [allocatorMachine, found, link]
      rw [Machine.next_of_step stepped, AllocatorState.linked]
      refine ⟨?_, fun other apart => ?_⟩
      · rw [← settleChain_of_settled settled, List.getElem?_modify_eq, found]
        rfl
      · exact List.getElem?_modify_ne _ _ apart.symm

/-- A turn settles its call by what its own write reaches, fulfils the link behind it, and
leaves the other calls.
-/
theorem run_turn {state : AllocatorState} (serving : Serving state) (counted : Counted state)
    {position : Nat} {allocation : Allocation} (outcome : Nat → Reached)
    (found : state.allocations[position]? = some allocation)
    (first : chainBefore state.allocations position = .fulfilled ())
    : ∃ after result,
        (allocatorMachine.run state (turn outcome position)).allocations = after
        ∧ (allocation.result = .pending → EndsAs state.returned (outcome position) result)
        ∧ after[position]? = some { result, chain := .fulfilled () }
        ∧ ∀ other, other ≠ position → after[other]? = state.allocations[other]? := by
  obtain ⟨result, settled, ends, called⟩ :=
    task_settles serving counted (outcome position) found first
  let later := allocatorMachine.next state (.task position (outcome position))
  have laterServing : Serving later := serving_preserved.next serving _
  have laterFound : later.allocations[position]? = some { allocation with result } := by
    rw [called, List.getElem?_modify_eq, found]
    rfl
  obtain ⟨after, reached, here, others⟩ :=
    settle_fulfils laterServing.unbroken laterFound settled
  refine ⟨after, result, reached, ends, here, fun other apart => ?_⟩
  rw [others other apart, called, List.getElem?_modify_ne _ _ apart.symm]

/-- After the turns of the first calls, the next one may run and is as it was; by induction
on the number of turns.
-/
theorem run_turns {state : AllocatorState} (serving : Serving state) (counted : Counted state)
    (outcome : Nat → Reached) {count : Nat} (enough : count ≤ state.allocations.length)
    : chainBefore (allocatorMachine.run state (turns outcome count)).allocations count
        = .fulfilled ()
      ∧ ∀ other,
          count ≤ other
          → (allocatorMachine.run state (turns outcome count)).allocations[other]?
            = state.allocations[other]? := by
  induction count with
  | zero => exact ⟨rfl, fun _ _ => rfl⟩
  | succ count ih =>
      obtain ⟨first, same⟩ := ih (by omega)
      have found := (same count le_rfl).trans (List.getElem?_eq_getElem (by omega))
      obtain ⟨after, result, reached, -, here, others⟩ :=
        run_turn (serving_preserved.run serving _) (counted_preserved.run counted _) outcome
          found first
      rw [turns, Machine.run_append, reached]
      refine ⟨?_, fun other above => ?_⟩
      · simp only [chainBefore, here]
      · rw [others other (by omega)]
        exact same other (by omega)

/-- A pending call is settled within its turn and the turns before it, by what its own write
reaches.
-/
def Unblocked (state : AllocatorState) : Prop :=
  ∀ (position : Nat) (allocation : Allocation),
    state.allocations[position]? = some allocation
    → allocation.result = .pending
    → ∀ outcome : Nat → Reached,
        ∃ result,
          ((allocatorMachine.run state (turns outcome (position + 1))).allocations[position]?).map
              Allocation.result
            = some result
          ∧ EndsAs state.returned (outcome position) result

theorem Serving.unblocked {state : AllocatorState} (serving : Serving state)
    (counted : Counted state)
    : Unblocked state := by
  intro position allocation found pending outcome
  have inside := (List.getElem?_eq_some_iff.mp found).1
  obtain ⟨first, same⟩ := run_turns serving counted outcome inside.le
  obtain ⟨after, result, reached, ends, here, -⟩ :=
    run_turn (serving_preserved.run serving _) (counted_preserved.run counted _) outcome
      ((same position le_rfl).trans found) first
  refine ⟨result, ?_, ?_⟩
  · rw [turns, Machine.run_append, reached, here]
    rfl
  · have kept :=
      (returned_preserved state.returned).run (fun _ member => member) (turns outcome position)
    exact (ends pending).mono kept

/-- In every run over whatever disk, with failing writes, crashes and restarts, the indexes
that the promises of all calls give, in the order of the calls, are those that were returned,
in the order of their return; they increase, so none is returned twice, and no call blocks
another.
-/
theorem allocate_is_durable (disk : Disk Json.Value) (inputs : List AllocatorEvent)
    : (allocatorMachine.run (AllocatorState.off disk) inputs).returned
        = fulfilledIndexes
            ((allocatorMachine.run (AllocatorState.off disk) inputs).ended
              ++ (allocatorMachine.run (AllocatorState.off disk) inputs).allocations)
      ∧ (allocatorMachine.run (AllocatorState.off disk) inputs).returned.Nodup
      ∧ (allocatorMachine.run (AllocatorState.off disk) inputs).returned.Pairwise
          (fun earlier later => earlier < later)
      ∧ Unblocked (allocatorMachine.run (AllocatorState.off disk) inputs) := by
  have counted := counted_preserved.run (counted_off disk) inputs
  have recorded := recorded_preserved.run (recorded_off disk) inputs
  have serving := serving_preserved.run (serving_off disk) inputs
  refine ⟨recorded.log, ?_, counted.increasing, serving.unblocked counted⟩
  exact counted.increasing.imp Nat.ne_of_lt

end StellarOnramp.Onboard
