import StellarOnramp.Library.Transitions

/-! Stores that keep their memory in one file. The file is replaced by a temporary file and a
rename, every step of which may fail; a process may stop between any two steps, and the next
one reads what the file holds.
-/

namespace DurableStore

open Transitions

variable {Memory Body Request Answer Start : Type}

-----------------------------------------------------------------------------------------
-- Replacing a file
-----------------------------------------------------------------------------------------

/-- The content of a file: a body, or what a write left that stopped on its way. -/
inductive Image (Body : Type) where
  | torn
  | whole (body : Body)

/-- The file and the temporary file beside it. -/
structure Disk (Body : Type) where
  file : Option (Image Body)
  temp : Option (Image Body)

def Disk.writeTemp (disk : Disk Body) (image : Image Body) : Disk Body :=
  { disk with temp := some image }

/-- The temporary file takes the place of the file. -/
def Disk.rename (disk : Disk Body) : Disk Body :=
  { file := disk.temp, temp := none }

/-- How far a replacement gets before it fails or its process stops. -/
inductive Reached where
  | nothing
  | tempTorn
  | tempWritten
  | renamed
  deriving DecidableEq

def Disk.replace (disk : Disk Body) (body : Body) : Reached → Disk Body
  | .nothing => disk
  | .tempTorn => disk.writeTemp .torn
  | .tempWritten => disk.writeTemp (.whole body)
  | .renamed => (disk.writeTemp (.whole body)).rename

/-- The file is replaced at once: it holds the new body, or what it held before. -/
@[simp]
theorem Disk.file_replace (disk : Disk Body) (body : Body) (reached : Reached)
    : (disk.replace body reached).file
      = if reached = .renamed then some (.whole body) else disk.file := by
  cases reached <;> rfl

-----------------------------------------------------------------------------------------
-- Stores
-----------------------------------------------------------------------------------------

/-- What a request does: the memories that it writes to the file one after another, and then
its answer and what it leaves in memory.
-/
structure Effect (Memory Answer : Type) where
  writes : List Memory
  memory : Memory
  answer : Answer

/-- A store: how it starts from its file, where `none` is an error, what it writes for a
memory, and what its requests do.
-/
structure Store (Memory Body Request Answer Start : Type) where
  load : Start → Option (Image Body) → Option Memory
  save : Memory → Body
  effect : Memory → Request → Effect Memory Answer

/-- The disk, and the memory of the process if one runs. -/
structure World (Memory Body : Type) where
  disk : Disk Body
  memory : Option Memory

/-- Write one memory after another, until a write fails; the memory that could not be written
is left behind then. A write with no outcome reaches nothing.
-/
def Store.writeAll (store : Store Memory Body Request Answer Start) (disk : Disk Body)
    : List Memory → List Reached → Disk Body × Option Memory
  | [], _ => (disk, none)
  | memory :: _, [] => (disk, some memory)
  | memory :: rest, reached :: outcomes =>
      if reached = .renamed then
        store.writeAll (disk.replace (store.save memory) reached) rest outcomes
      else
        (disk.replace (store.save memory) reached, some memory)

/-- A request; its answer is an error if a write fails. -/
def Store.perform (store : Store Memory Body Request Answer Start) (world : World Memory Body)
    (request : Request) (outcomes : List Reached)
    : Option (World Memory Body × Option Answer) :=
  world.memory.map (fun memory =>
    let effect := store.effect memory request
    match store.writeAll world.disk effect.writes outcomes with
    | (disk, none) => ({ disk, memory := some effect.memory }, some effect.answer)
    | (disk, some unwritten) => ({ disk, memory := some unwritten }, none))

/-- A process starts with what the file holds. -/
def Store.restart (store : Store Memory Body Request Answer Start) (world : World Memory Body)
    (start : Start)
    : Option (World Memory Body) :=
  match world.memory with
  | some _ => none
  | none =>
      (store.load start world.disk.file).map (fun memory => { world with memory := some memory })

/-- The process stops. -/
def World.stop (world : World Memory Body) : World Memory Body :=
  { world with memory := none }

/-- The file after some writes that succeeded. -/
def Store.written (store : Store Memory Body Request Answer Start)
    (file : Option (Image Body)) (done : List Memory)
    : Option (Image Body) :=
  match done.getLast? with
  | none => file
  | some memory => some (.whole (store.save memory))

section

variable {store : Store Memory Body Request Answer Start} {world after : World Memory Body}
  {request : Request} {outcomes : List Reached} {answer : Option Answer}

@[simp]
theorem Store.written_nil (store : Store Memory Body Request Answer Start)
    (file : Option (Image Body))
    : store.written file [] = file :=
  rfl

/-- The only way to cut a single write in two. -/
theorem single_split {memory unwritten : Memory} {done rest : List Memory}
    (split : [memory] = done ++ unwritten :: rest)
    : done = [] ∧ unwritten = memory ∧ rest = [] := by
  cases done with
  | nil =>
      cases split
      exact ⟨rfl, rfl, rfl⟩
  | cons first done => simp at split

/-- The file after some writes is as it was or holds one of them. -/
theorem Store.written_cases (store : Store Memory Body Request Answer Start)
    (file : Option (Image Body)) (done : List Memory)
    : store.written file done = file
      ∨ ∃ memory ∈ done, store.written file done = some (.whole (store.save memory)) := by
  unfold Store.written
  cases last : done.getLast? with
  | none => exact .inl rfl
  | some memory => exact .inr ⟨memory, List.mem_of_getLast? last, rfl⟩

theorem Store.written_cons (store : Store Memory Body Request Answer Start)
    (file : Option (Image Body)) (memory : Memory) (done : List Memory)
    : store.written file (memory :: done)
      = store.written (some (.whole (store.save memory))) done := by
  cases done with
  | nil => rfl
  | cons next rest => rfl

/-- Either every write succeeds or one is the first to fail; by induction on the writes. -/
theorem Store.writeAll_cases (store : Store Memory Body Request Answer Start)
    (disk : Disk Body) (writes : List Memory) (outcomes : List Reached)
    : ((store.writeAll disk writes outcomes).2 = none
        ∧ (store.writeAll disk writes outcomes).1.file = store.written disk.file writes)
      ∨ ∃ done unwritten rest,
          writes = done ++ unwritten :: rest
          ∧ (store.writeAll disk writes outcomes).2 = some unwritten
          ∧ (store.writeAll disk writes outcomes).1.file = store.written disk.file done := by
  induction writes generalizing disk outcomes with
  | nil => exact .inl ⟨rfl, rfl⟩
  | cons memory writes ih =>
      cases outcomes with
      | nil => exact .inr ⟨[], memory, writes, rfl, rfl, rfl⟩
      | cons reached outcomes =>
          by_cases landed : reached = .renamed
          · have file
                : (disk.replace (store.save memory) reached).file
                  = some (.whole (store.save memory)) := by
              rw [Disk.file_replace, if_pos landed]
            have next
                : store.writeAll disk (memory :: writes) (reached :: outcomes)
                  = store.writeAll (disk.replace (store.save memory) reached) writes outcomes :=
              if_pos landed
            rw [next, Store.written_cons, ← file]
            rcases ih (disk.replace (store.save memory) reached) outcomes with
              whole | ⟨done, unwritten, rest, rfl, failed, holds⟩
            · exact .inl whole
            · refine .inr ⟨memory :: done, unwritten, rest, rfl, failed, ?_⟩
              rw [holds, Store.written_cons, ← file]
          · have next
                : store.writeAll disk (memory :: writes) (reached :: outcomes)
                  = (disk.replace (store.save memory) reached, some memory) :=
              if_neg landed
            refine .inr ⟨[], memory, writes, rfl, by rw [next], ?_⟩
            rw [next, Disk.file_replace, if_neg landed]
            rfl

/-- The ways in which a request ends: it is answered and every write is in the file, or a
write failed and the file is as the writes before it left it.
-/
theorem Store.perform_cases
    (performed : store.perform world request outcomes = some (after, answer))
    : ∃ memory,
        world.memory = some memory
        ∧ ((answer = some (store.effect memory request).answer
              ∧ after.memory = some (store.effect memory request).memory
              ∧ after.disk.file
                = store.written world.disk.file (store.effect memory request).writes)
            ∨ ∃ done unwritten rest,
                (store.effect memory request).writes = done ++ unwritten :: rest
                ∧ answer = none
                ∧ after.memory = some unwritten
                ∧ after.disk.file = store.written world.disk.file done) := by
  obtain ⟨memory, live, performed⟩ := Option.map_eq_some_iff.mp performed
  refine ⟨memory, live, ?_⟩
  rcases store.writeAll_cases world.disk (store.effect memory request).writes outcomes with
    ⟨whole, file⟩ | ⟨done, unwritten, rest, split, failed, file⟩
  · cases outcome : store.writeAll world.disk (store.effect memory request).writes outcomes with
    | mk disk left =>
        simp only [outcome] at performed whole file
        subst whole
        cases performed
        exact .inl ⟨rfl, rfl, file⟩
  · cases outcome : store.writeAll world.disk (store.effect memory request).writes outcomes with
    | mk disk left =>
        simp only [outcome] at performed failed file
        subst failed
        cases performed
        exact .inr ⟨done, unwritten, rest, split, rfl, rfl, file⟩

/-- A request that writes once. -/
theorem Store.perform_single {memory next : Memory} (live : world.memory = some memory)
    (single : (store.effect memory request).writes = [next]) (reached : Reached)
    : store.perform world request [reached]
      = some
          (if reached = .renamed then
            (
              {
                disk := world.disk.replace (store.save next) reached
                memory := some (store.effect memory request).memory
              },
              some (store.effect memory request).answer
            )
          else
            (
              { disk := world.disk.replace (store.save next) reached, memory := some next },
              none
            )) := by
  by_cases landed : reached = .renamed
  · simp [Store.perform, live, single, Store.writeAll, landed]
  · simp [Store.perform, live, single, Store.writeAll, landed]

theorem Store.restart_eq_some {start : Start}
    (restarted : store.restart world start = some after)
    : world.memory = none
      ∧ after.disk = world.disk
      ∧ ∃ memory, store.load start world.disk.file = some memory ∧ after.memory = some memory := by
  unfold Store.restart at restarted
  split at restarted
  case h_1 => cases restarted
  case h_2 down =>
    obtain ⟨memory, loaded, rfl⟩ := Option.map_eq_some_iff.mp restarted
    exact ⟨down, rfl, memory, loaded, rfl⟩

end

-----------------------------------------------------------------------------------------
-- Runs
-----------------------------------------------------------------------------------------

inductive StoreEvent (Request Start : Type) where
  | call (request : Request) (outcomes : List Reached)
  /-- The process stops, during a request or between two. -/
  | crash (during : Option (Request × List Reached))
  | restart (start : Start)

/-- What a run leaves in its log; an answer says whether the file was written for it. -/
inductive Entry (Request Answer Start : Type) where
  | answered (request : Request) (answer : Answer) (saved : Bool)
  | failed (request : Request)
  | stopped (during : Option Request)
  | started (start : Start)

/-- The request of an entry, whether or not it came to its end. -/
def Entry.request {Request Answer Start : Type} : Entry Request Answer Start → Option Request
  | answered request _ _ => some request
  | failed request => some request
  | stopped during => during
  | started _ => none

/-- A world with the log of its run, the last entry first. -/
structure Logbook (Memory Body Request Answer Start : Type) where
  world : World Memory Body
  log : List (Entry Request Answer Start)

/-- Nothing was logged, and no process runs. -/
def Logbook.off (disk : Disk Body) : Logbook Memory Body Request Answer Start :=
  { world := { disk, memory := none }, log := [] }

/-- All runs of a store in one process after another. -/
def Store.machine (store : Store Memory Body Request Answer Start)
    : Machine (Logbook Memory Body Request Answer Start) (StoreEvent Request Start) where
  step state event :=
    match event with
    | .call request outcomes =>
        state.world.memory.bind (fun memory =>
          (store.perform state.world request outcomes).map (fun (world, answer) =>
            match answer with
            | some answer =>
                let saved := !(store.effect memory request).writes.isEmpty
                { world, log := .answered request answer saved :: state.log }
            | none => { world, log := .failed request :: state.log }))
    | .crash none =>
        state.world.memory.map (fun _ =>
          { world := state.world.stop, log := .stopped none :: state.log })
    | .crash (some (request, outcomes)) =>
        (store.perform state.world request outcomes).map (fun (world, _) =>
          { world := world.stop, log := .stopped (some request) :: state.log })
    | .restart start =>
        (store.restart state.world start).map (fun world =>
          { world, log := .started start :: state.log })

section

variable {store : Store Memory Body Request Answer Start}
  {state after : Logbook Memory Body Request Answer Start} {request : Request}
  {outcomes : List Reached}

/-- A call is answered with all its writes in the file, or it fails with some of them. -/
theorem Store.call_cases
    (stepped : store.machine.step state (.call request outcomes) = some after)
    : ∃ memory,
        state.world.memory = some memory
        ∧ ((after.log
                  = .answered request (store.effect memory request).answer
                      (!(store.effect memory request).writes.isEmpty)
                    :: state.log
                ∧ after.world.memory = some (store.effect memory request).memory
                ∧ after.world.disk.file
                  = store.written state.world.disk.file (store.effect memory request).writes)
            ∨ ∃ done unwritten rest,
                (store.effect memory request).writes = done ++ unwritten :: rest
                ∧ after.log = .failed request :: state.log
                ∧ after.world.memory = some unwritten
                ∧ after.world.disk.file = store.written state.world.disk.file done) := by
  obtain ⟨memory, live, stepped⟩ := Option.bind_eq_some_iff.mp stepped
  obtain ⟨⟨world, answer⟩, performed, rfl⟩ := Option.map_eq_some_iff.mp stepped
  obtain ⟨other, same, ends⟩ := Store.perform_cases performed
  cases live.symm.trans same
  refine ⟨memory, live, ?_⟩
  rcases ends with ⟨rfl, kept, file⟩ | ⟨done, unwritten, rest, split, rfl, kept, file⟩
  · exact .inl ⟨rfl, kept, file⟩
  · exact .inr ⟨done, unwritten, rest, split, rfl, kept, file⟩

/-- A process that stops has made some of the writes of the request it was in. -/
theorem Store.crash_cases {during : Option (Request × List Reached)}
    (stepped : store.machine.step state (.crash during) = some after)
    : after.world.memory = none
      ∧ after.log = .stopped (during.map Prod.fst) :: state.log
      ∧ (during = none ∧ after.world.disk.file = state.world.disk.file
        ∨ ∃ request outcomes memory done rest,
            during = some (request, outcomes)
            ∧ state.world.memory = some memory
            ∧ (store.effect memory request).writes = done ++ rest
            ∧ after.world.disk.file = store.written state.world.disk.file done) := by
  cases during with
  | none =>
      obtain ⟨memory, -, rfl⟩ := Option.map_eq_some_iff.mp stepped
      exact ⟨rfl, rfl, .inl ⟨rfl, rfl⟩⟩
  | some interrupted =>
      obtain ⟨request, outcomes⟩ := interrupted
      obtain ⟨⟨world, answer⟩, performed, rfl⟩ := Option.map_eq_some_iff.mp stepped
      obtain ⟨memory, live, ends⟩ := Store.perform_cases performed
      refine ⟨rfl, rfl, .inr ⟨request, outcomes, memory, ?_⟩⟩
      rcases ends with ⟨-, -, file⟩ | ⟨done, unwritten, rest, split, -, -, file⟩
      · exact ⟨_, [], rfl, live, (List.append_nil _).symm, file⟩
      · exact ⟨done, unwritten :: rest, rfl, live, split, file⟩

theorem Store.started_cases {start : Start}
    (stepped : store.machine.step state (.restart start) = some after)
    : after.world.disk = state.world.disk
      ∧ after.log = .started start :: state.log
      ∧ ∃ memory,
          store.load start state.world.disk.file = some memory
          ∧ after.world.memory = some memory := by
  obtain ⟨world, restarted, rfl⟩ := Option.map_eq_some_iff.mp stepped
  obtain ⟨-, disk, loaded⟩ := Store.restart_eq_some restarted
  exact ⟨disk, rfl, loaded⟩

/-- Every step adds one entry. -/
theorem Store.log_step {event : StoreEvent Request Start}
    (stepped : store.machine.step state event = some after)
    : ∃ entry, after.log = entry :: state.log := by
  cases event with
  | call request outcomes =>
      obtain ⟨memory, -, ⟨log, -⟩ | ⟨_, _, _, -, log, -⟩⟩ := Store.call_cases stepped
      · exact ⟨_, log⟩
      · exact ⟨_, log⟩
  | crash during => exact ⟨_, (Store.crash_cases stepped).2.1⟩
  | restart start => exact ⟨_, (Store.started_cases stepped).2.1⟩

/-- A run keeps the log it started with. -/
theorem Store.log_run (state : Logbook Memory Body Request Answer Start)
    (inputs : List (StoreEvent Request Start))
    : ∃ entries, (store.machine.run state inputs).log = entries ++ state.log := by
  have grows
      : store.machine.Preserves (fun given => ∃ entries, given.log = entries ++ state.log) := by
    intro given event later kept stepped
    obtain ⟨entries, kept⟩ := kept
    obtain ⟨entry, log⟩ := Store.log_step stepped
    exact ⟨entry :: entries, by rw [log, kept]; rfl⟩
  exact grows.run ⟨[], rfl⟩ inputs

end

end DurableStore
