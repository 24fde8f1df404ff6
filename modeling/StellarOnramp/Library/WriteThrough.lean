import StellarOnramp.Library.DurableStore

/-! Stores whose calls change memory first and then write it to the file, once. Such a call is
all or nothing exactly when its write succeeds or it had nothing to change. Maps in insertion
order, as such stores keep them, come at the end.
-/

namespace DurableStore

open Transitions

variable {Memory Body Request Answer Start : Type}

-----------------------------------------------------------------------------------------
-- Calls
-----------------------------------------------------------------------------------------

/-- Every call refuses without a change, returns without a change, or writes what it leaves in
memory.
-/
structure Store.WriteThrough (store : Store Memory Body Request Answer Start)
    (refusal : Answer → Prop)
    : Prop where
  quiet
    : ∀ memory request,
        (store.effect memory request).writes = []
        → (store.effect memory request).memory = memory
  single
    : ∀ memory request,
        (store.effect memory request).writes ≠ []
        → (store.effect memory request).writes = [(store.effect memory request).memory]
          ∧ ¬ refusal (store.effect memory request).answer

/-- The file has the content of a memory. A file that is missing has that of a new store. -/
def Store.Synced (store : Store Memory Body Request Answer Start) (fresh : Memory)
    (world : World Memory Body)
    : Prop :=
  ∃ memory,
    world.memory = some memory
    ∧ (world.disk.file.getD (.whole (store.save fresh))) = .whole (store.save memory)

/-- The calls of one process, each with how far its write gets. -/
def Store.calls (store : Store Memory Body Request Answer Start)
    : Machine (World Memory Body) (Request × Reached) where
  step world call := (store.perform world call.1 [call.2]).map Prod.fst

/-- A call succeeds and the file has the content of the new memory, or it throws and leaves
memory and file as they were. A call throws when its answer is a refusal or its write fails.
-/
def Store.Atomic (store : Store Memory Body Request Answer Start) (refusal : Answer → Prop)
    (fresh : Memory) (world : World Memory Body) (call : Request × Reached)
    : Prop :=
  ∀ after answer,
    store.perform world call.1 [call.2] = some (after, answer)
    → ((∃ value, answer = some value ∧ ¬ refusal value) ∧ store.Synced fresh after)
      ∨ ((∀ value, answer = some value → refusal value)
        ∧ after.memory = world.memory
        ∧ after.disk.file = world.disk.file)

/-- The write of a call succeeds, or the call has nothing to change. -/
def Store.Spared (store : Store Memory Body Request Answer Start) (world : World Memory Body)
    (call : Request × Reached)
    : Prop :=
  call.2 = .renamed
  ∨ ∀ memory, world.memory = some memory → (store.effect memory call.1).memory = memory

section

variable {store : Store Memory Body Request Answer Start} {refusal : Answer → Prop}
  {fresh memory : Memory} {world after : World Memory Body} {call : Request × Reached}
  {answer : Option Answer}

/-- The ways in which a call of such a store ends. -/
theorem Store.WriteThrough.perform_cases (through : store.WriteThrough refusal)
    (live : world.memory = some memory)
    (performed : store.perform world call.1 [call.2] = some (after, answer))
    : (answer = some (store.effect memory call.1).answer
          ∧ (store.effect memory call.1).memory = memory
          ∧ after.memory = some memory
          ∧ after.disk.file = world.disk.file)
      ∨ (¬ refusal (store.effect memory call.1).answer
        ∧ after.memory = some (store.effect memory call.1).memory
        ∧ (call.2 = .renamed
              ∧ answer = some (store.effect memory call.1).answer
              ∧ after.disk.file = some (.whole (store.save (store.effect memory call.1).memory))
            ∨ call.2 ≠ .renamed ∧ answer = none ∧ after.disk.file = world.disk.file)) := by
  by_cases writes : (store.effect memory call.1).writes = []
  · have kept := through.quiet memory call.1 writes
    simp only [Store.perform, live, writes, Store.writeAll, Option.map_some, Option.some.injEq,
      Prod.mk.injEq] at performed
    obtain ⟨rfl, rfl⟩ := performed
    exact .inl ⟨rfl, kept, congrArg some kept, rfl⟩
  · obtain ⟨single, accepted⟩ := through.single memory call.1 writes
    rw [Store.perform_single live single] at performed
    refine .inr ⟨accepted, ?_⟩
    split at performed
    case isTrue landed =>
      obtain ⟨rfl, rfl⟩ := Prod.mk.inj (Option.some.inj performed)
      exact ⟨rfl, .inl ⟨landed, rfl, by rw [Disk.file_replace, if_pos landed]⟩⟩
    case isFalse failed =>
      obtain ⟨rfl, rfl⟩ := Prod.mk.inj (Option.some.inj performed)
      exact ⟨rfl, .inr ⟨failed, rfl, by rw [Disk.file_replace, if_neg failed]⟩⟩

/-- A call on a file that is in step is all or nothing exactly when it is spared. -/
theorem Store.WriteThrough.atomic_iff (through : store.WriteThrough refusal)
    (synced : store.Synced fresh world)
    : store.Atomic refusal fresh world call ↔ store.Spared world call := by
  obtain ⟨memory, live, content⟩ := synced
  obtain ⟨⟨after, answer⟩, performed⟩
      : ∃ result, store.perform world call.1 [call.2] = some result := by
    rw [Store.perform, live]
    exact ⟨_, rfl⟩
  constructor
  · intro atomic
    refine or_iff_not_imp_left.mpr fun failed other found => ?_
    obtain rfl := Option.some.inj (live.symm.trans found)
    rcases through.perform_cases live performed with ⟨-, kept, -⟩ | ⟨-, stored, ends⟩
    · exact kept
    · rcases ends with ⟨landed, -⟩ | ⟨-, rfl, -⟩
      · exact absurd landed failed
      · rcases atomic after none performed with ⟨⟨value, returned, -⟩, -⟩ | ⟨-, same, -⟩
        · cases returned
        · exact Option.some.inj (stored.symm.trans (same.trans live))
  · rintro spared other result found
    obtain ⟨rfl, rfl⟩ := Prod.mk.inj (Option.some.inj (performed.symm.trans found))
    rcases through.perform_cases live performed with ⟨rfl, -, stored, file⟩ | ⟨accepted, stored, ends⟩
    · by_cases refused : refusal (store.effect memory call.1).answer
      · refine .inr ⟨fun value same => Option.some.inj same ▸ refused, ?_, file⟩
        exact stored.trans live.symm
      · exact .inl ⟨⟨_, rfl, refused⟩, memory, stored, by rw [file, content]⟩
    · rcases ends with ⟨-, rfl, file⟩ | ⟨failed, rfl, file⟩
      · exact .inl ⟨⟨_, rfl, accepted⟩, _, stored, by rw [file]; rfl⟩
      · have kept := (spared.resolve_left failed) memory live
        refine .inr ⟨fun _ returned => absurd returned.symm (Option.some_ne_none _), ?_, file⟩
        rw [stored, kept, live]

/-- A spared call leaves the file in step. -/
theorem Store.WriteThrough.synced_of_spared (through : store.WriteThrough refusal)
    (synced : store.Synced fresh world) (spared : store.Spared world call)
    (stepped : store.calls.step world call = some after)
    : store.Synced fresh after := by
  obtain ⟨⟨other, answer⟩, performed, rfl⟩ := Option.map_eq_some_iff.mp stepped
  rcases (through.atomic_iff synced).mpr spared other answer performed with
    ⟨-, kept⟩ | ⟨-, memory, file⟩
  · exact kept
  · obtain ⟨held, live, content⟩ := synced
    exact ⟨held, memory.trans live, by rw [file, content]⟩

/-- In a run of spared calls every call is all or nothing, and the file stays in step. -/
theorem Store.WriteThrough.run (through : store.WriteThrough refusal)
    (synced : store.Synced fresh world) {inputs : List (Request × Reached)}
    (spared
      : ∀ given call, (given, call) ∈ store.calls.trace world inputs → store.Spared given call)
    : store.Synced fresh (store.calls.run world inputs)
      ∧ ∀ given call,
          (given, call) ∈ store.calls.trace world inputs
          → store.Atomic refusal fresh given call := by
  have stays {before : List (Request × Reached)}
      (spared
        : ∀ given call,
            (given, call) ∈ store.calls.trace world before → store.Spared given call)
      : store.Synced fresh (store.calls.run world before) :=
    Machine.run_of_trace
      (fun given call after member stepped held =>
        through.synced_of_spared held (spared given call member) stepped)
      synced
  refine ⟨stays spared, fun given call member => ?_⟩
  obtain ⟨before, rest, rfl, rfl, -⟩ := Machine.mem_trace member
  have held := stays fun given other member => spared given other
    (Machine.mem_trace_append member (call :: rest))
  exact (through.atomic_iff held).mpr (spared _ call member)

end

end DurableStore
