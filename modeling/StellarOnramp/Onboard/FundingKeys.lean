import StellarOnramp.Library.DurableStore
import StellarOnramp.Library.Json

/-! The store of the keys that hold the bought USDC, in a file. A new key is in memory before
it is written, so a call after a failed write hands out a key that no file holds.
-/

namespace StellarOnramp.Onboard

open JsText
open DurableStore
open Transitions

-----------------------------------------------------------------------------------------
-- The store
-----------------------------------------------------------------------------------------

/-- Secret seeds by account id, in insertion order. -/
abbrev SecretTable := List (JsString × Json.Value)

/-- The keys of the ledger's library; a malformed secret throws. -/
structure KeypairLibrary (Keypair : Type) where
  secret : Keypair → JsString
  fromSecret : Json.Value → Option Keypair

/-- A secret stands for the key it was taken from. -/
def KeypairLibrary.RoundTrips {Keypair : Type} (library : KeypairLibrary Keypair) : Prop :=
  ∀ keypair, library.fromSecret (.string (library.secret keypair)) = some keypair

/-- A call, with the random key that it may need. -/
inductive KeyRequest (Keypair : Type) where
  | get (accountId : JsString)
  | getOrCreate (accountId : JsString) (random : Keypair)

def KeyRequest.accountId {Keypair : Type} : KeyRequest Keypair → JsString
  | get accountId => accountId
  | getOrCreate accountId _ => accountId

inductive KeyAnswer (Keypair : Type) where
  | undefined
  | keypair (keypair : Keypair)
  | malformed

/-- The value that `JSON.stringify` writes and `JSON.parse` reads back. -/
def fundingKeysFile (keys : SecretTable) : Json.Value :=
  .object [(js "version", .number 1), (js "keys", .object keys)]

/-- The constructor; `none` is an error. An array counts as an object, with its positions for
keys.
-/
def loadFundingKeys : Option (Image Json.Value) → Option SecretTable
  | none => some []
  | some .torn => none
  | some (.whole raw) =>
      match raw.get (js "version"), raw.get (js "keys") with
      | some (.number 1), some (.object keys) => some keys
      | some (.number 1), some (.array items) =>
          some (items.zipIdx.map (fun (item, position) => (numberText position, item)))
      | _, _ => none

theorem loadFundingKeys_file (keys : SecretTable)
    : loadFundingKeys (some (.whole (fundingKeysFile keys))) = some keys := by
  have version : (fundingKeysFile keys).get (js "version") = some (.number 1) := rfl
  have stored : (fundingKeysFile keys).get (js "keys") = some (.object keys) := rfl
  simp only [loadFundingKeys, version, stored]

section

variable {Keypair : Type} (library : KeypairLibrary Keypair)

/-- `get`: the key of the account, if it has one. -/
def getKey (keys : SecretTable) (accountId : JsString) : KeyAnswer Keypair :=
  match keys.lookup accountId with
  | none => .undefined
  | some secret =>
      match library.fromSecret secret with
      | none => .malformed
      | some keypair => .keypair keypair

/-- `getOrCreate` returns the existing key, or generates and writes one. -/
def fundingKeys
    : Store SecretTable Json.Value (KeyRequest Keypair) (KeyAnswer Keypair) Unit where
  load _ := loadFundingKeys
  save := fundingKeysFile
  effect keys request :=
    match request with
    | .get accountId => { writes := [], memory := keys, answer := getKey library keys accountId }
    | .getOrCreate accountId random =>
        match getKey library keys accountId with
        | .undefined =>
            let keys := keys ++ [(accountId, .string (library.secret random))]
            { writes := [keys], memory := keys, answer := .keypair random }
        | existing => { writes := [], memory := keys, answer := existing }

end

/-- The accounts whose key could not be written and was not written later, in the running
process.
-/
def unsavedAccounts {Keypair Answer Start : Type}
    : List (Entry (KeyRequest Keypair) Answer Start) → List JsString
  | [] => []
  | .answered _ _ true :: _ => []
  | .answered _ _ false :: earlier => unsavedAccounts earlier
  | .failed request :: earlier => request.accountId :: unsavedAccounts earlier
  | .stopped _ :: _ => []
  | .started _ :: _ => []

section

variable {Keypair : Type} {library : KeypairLibrary Keypair}

/-- The ways in which a call acts on the table. -/
theorem fundingKeys_cases (library : KeypairLibrary Keypair) (keys : SecretTable)
    (request : KeyRequest Keypair)
    : (((fundingKeys library).effect keys request)
          = { writes := [], memory := keys, answer := getKey library keys request.accountId })
      ∨ ∃ random,
          request = .getOrCreate request.accountId random
          ∧ keys.lookup request.accountId = none
          ∧ (fundingKeys library).effect keys request
            = {
                writes := [keys ++ [(request.accountId, .string (library.secret random))]]
                memory := keys ++ [(request.accountId, .string (library.secret random))]
                answer := .keypair random
              } := by
  cases request with
  | get accountId => exact .inl rfl
  | getOrCreate accountId random =>
      cases existing : getKey library keys accountId with
      | undefined =>
          refine .inr ⟨random, rfl, ?_, by simp only [fundingKeys, existing, KeyRequest.accountId]⟩
          unfold getKey at existing
          split at existing
          case h_1 absent => exact absent
          case h_2 => split at existing <;> cases existing
      | keypair keypair =>
          exact .inl (by simp only [fundingKeys, existing, KeyRequest.accountId])
      | malformed =>
          exact .inl (by simp only [fundingKeys, existing, KeyRequest.accountId])

-----------------------------------------------------------------------------------------
-- What the file holds
-----------------------------------------------------------------------------------------

/-- A run of the store. -/
abbrev KeyState (Keypair : Type) :=
  Logbook SecretTable Json.Value (KeyRequest Keypair) (KeyAnswer Keypair) Unit

/-- The file holds the key of the account. -/
def Stored (library : KeypairLibrary Keypair) (file : Option (Image Json.Value))
    (accountId : JsString) (keypair : Keypair)
    : Prop :=
  ∃ keys secret,
    loadFundingKeys file = some keys
    ∧ keys.lookup accountId = some secret
    ∧ library.fromSecret secret = some keypair

/-- Memory holds what the file holds, and keys of unsaved accounts besides. -/
structure Mirrors (library : KeypairLibrary Keypair) (unsaved : List JsString)
    (stored keys : SecretTable)
    : Prop where
  saved
    : ∀ accountId, accountId ∉ unsaved → keys.lookup accountId = stored.lookup accountId
  unsaved
    : ∀ accountId ∈ unsaved,
        stored.lookup accountId = none
        ∧ ∃ keypair, keys.lookup accountId = some (.string (library.secret keypair))

theorem Mirrors.refl (keys : SecretTable) : Mirrors library [] keys keys where
  saved _ _ := rfl
  unsaved _ member := by cases member

/-- What is stored is in memory. -/
theorem Mirrors.lookup {unsaved : List JsString} {stored keys : SecretTable}
    {accountId : JsString} {secret : Json.Value}
    (mirrors : Mirrors library unsaved stored keys)
    (found : stored.lookup accountId = some secret)
    : keys.lookup accountId = some secret := by
  by_cases member : accountId ∈ unsaved
  · have absent := (mirrors.unsaved accountId member).1
    cases absent.symm.trans found
  · rw [mirrors.saved accountId member, found]

/-- A new key that could not be written. -/
theorem Mirrors.append {unsaved : List JsString} {stored keys : SecretTable}
    {accountId : JsString} (mirrors : Mirrors library unsaved stored keys)
    (absent : keys.lookup accountId = none) (keypair : Keypair)
    : Mirrors library (accountId :: unsaved) stored
        (keys ++ [(accountId, .string (library.secret keypair))]) where
  saved other apart := by
    have differs := List.ne_of_not_mem_cons apart
    rw [List.lookup_append, mirrors.saved other (List.not_mem_of_not_mem_cons apart)]
    simp [List.lookup_cons, beq_false_of_ne differs]
  unsaved other member := by
    rcases List.mem_cons.mp member with rfl | member
    · have outside : other ∉ unsaved := by
        intro inside
        obtain ⟨-, keypair, found⟩ := mirrors.unsaved other inside
        cases absent.symm.trans found
      refine ⟨(mirrors.saved other outside).symm.trans absent, keypair, ?_⟩
      simp [List.lookup_append, absent]
    · obtain ⟨missing, keypair, found⟩ := mirrors.unsaved other member
      refine ⟨missing, keypair, ?_⟩
      rw [List.lookup_append, found]
      rfl

/-- The memory of a running process mirrors the file up to the unsaved accounts. -/
def Mirrored (library : KeypairLibrary Keypair) (state : KeyState Keypair) : Prop :=
  ∀ keys,
    state.world.memory = some keys
    → ∃ stored,
        loadFundingKeys state.world.disk.file = some stored
        ∧ Mirrors library (unsavedAccounts state.log) stored keys

theorem mirrored_off (disk : Disk Json.Value) : Mirrored library (Logbook.off disk) := by
  intro keys live
  cases live

theorem mirrored_preserved : (fundingKeys library).machine.Preserves (Mirrored library) := by
  intro state event after mirrored stepped
  cases event with
  | restart start =>
      obtain ⟨disk, log, keys, loaded, live⟩ := Store.started_cases stepped
      intro current found
      cases live.symm.trans found
      rw [disk, log]
      exact ⟨keys, loaded, Mirrors.refl keys⟩
  | crash during =>
      obtain ⟨stopped, -⟩ := Store.crash_cases stepped
      intro current found
      cases stopped.symm.trans found
  | call request outcomes =>
      obtain ⟨keys, live, ends⟩ := Store.call_cases stepped
      obtain ⟨stored, loaded, mirrors⟩ := mirrored keys live
      rcases fundingKeys_cases library keys request with quiet | ⟨random, -, absent, creates⟩
      · rw [quiet] at ends
        rcases ends with ⟨log, kept, file⟩ | ⟨done, unwritten, rest, split, -⟩
        · intro current found
          cases kept.symm.trans found
          rw [log, file]
          exact ⟨stored, loaded, mirrors⟩
        · simp at split
      · rw [creates] at ends
        rcases ends with ⟨log, kept, file⟩ | ⟨done, unwritten, rest, split, log, kept, file⟩
        · intro current found
          cases kept.symm.trans found
          rw [log, file]
          exact ⟨_, loadFundingKeys_file _, Mirrors.refl _⟩
        · obtain ⟨rfl, rfl, -⟩ := single_split split
          intro current found
          cases kept.symm.trans found
          rw [log, file]
          exact ⟨stored, loaded, mirrors.append absent random⟩

/-- A stored key survives the write of a table that extends the memory. -/
theorem Stored.extend {file : Option (Image Json.Value)} {accountId : JsString}
    {keypair : Keypair} {unsaved : List JsString} {stored keys more : SecretTable}
    (kept : Stored library file accountId keypair) (loaded : loadFundingKeys file = some stored)
    (mirrors : Mirrors library unsaved stored keys)
    : Stored library (some (.whole (fundingKeysFile (keys ++ more)))) accountId keypair := by
  obtain ⟨other, secret, same, found, read⟩ := kept
  cases loaded.symm.trans same
  refine ⟨_, secret, loadFundingKeys_file _, ?_, read⟩
  rw [List.lookup_append, mirrors.lookup found]
  rfl

/-- No event takes a key out of the file. -/
theorem Stored.step {state after : KeyState Keypair} {event : StoreEvent (KeyRequest Keypair) Unit}
    {accountId : JsString} {keypair : Keypair} (mirrored : Mirrored library state)
    (kept : Stored library state.world.disk.file accountId keypair)
    (stepped : (fundingKeys library).machine.step state event = some after)
    : Stored library after.world.disk.file accountId keypair := by
  -- Whatever was written extends the memory of the process.
  have written {keys : SecretTable} {request : KeyRequest Keypair} {done rest : List SecretTable}
      (live : state.world.memory = some keys)
      (split : ((fundingKeys library).effect keys request).writes = done ++ rest)
      : Stored library ((fundingKeys library).written state.world.disk.file done) accountId
          keypair := by
    obtain ⟨stored, loaded, mirrors⟩ := mirrored keys live
    rcases done with _ | ⟨first, done⟩
    · exact kept
    · rcases fundingKeys_cases library keys request with quiet | ⟨random, -, -, creates⟩
      · simp [quiet] at split
      · obtain ⟨rfl, nothing⟩ : _ = first ∧ [] = done ++ rest := by
          rw [creates] at split
          exact List.cons.inj split
        obtain ⟨rfl, -⟩ := List.append_eq_nil_iff.mp nothing.symm
        exact kept.extend loaded mirrors
  cases event with
  | restart start =>
      obtain ⟨disk, -⟩ := Store.started_cases stepped
      rwa [disk]
  | crash during =>
      obtain ⟨-, -, ⟨-, file⟩ | ⟨request, outcomes, keys, done, rest, -, live, split, file⟩⟩ :=
        Store.crash_cases stepped
      · rwa [file]
      · rw [file]
        exact written live split
  | call request outcomes =>
      obtain ⟨keys, live, ⟨-, -, file⟩ | ⟨done, unwritten, rest, split, -, -, file⟩⟩ :=
        Store.call_cases stepped
      · rw [file]
        exact written live (List.append_nil _).symm
      · rw [file]
        exact written live split

-----------------------------------------------------------------------------------------
-- Keys that were handed out
-----------------------------------------------------------------------------------------

/-- A call for the account returned the key. -/
def Handed (state : KeyState Keypair) (accountId : JsString) (keypair : Keypair) : Prop :=
  ∃ request saved,
    .answered request (.keypair keypair) saved ∈ state.log ∧ request.accountId = accountId

/-- Every key that was handed out is in the file, and the account gets it again. -/
structure KeysKept (library : KeypairLibrary Keypair) (state : KeyState Keypair) : Prop where
  stored
    : ∀ accountId keypair,
        Handed state accountId keypair
        → Stored library state.world.disk.file accountId keypair
  recalled
    : ∀ accountId keypair keys,
        Handed state accountId keypair
        → state.world.memory = some keys
        → ∀ random,
            ((fundingKeys library).effect keys (.getOrCreate accountId random)).answer
            = .keypair keypair

/-- A call asks for no account whose key could not be written. -/
def AsksForSaved (state : KeyState Keypair)
    : StoreEvent (KeyRequest Keypair) Unit → Prop
  | .call request _ => request.accountId ∉ unsavedAccounts state.log
  | _ => True

theorem getKey_eq_keypair {keys : SecretTable} {accountId : JsString} {keypair : Keypair}
    : getKey library keys accountId = .keypair keypair
      ↔ ∃ secret,
          keys.lookup accountId = some secret ∧ library.fromSecret secret = some keypair := by
  unfold getKey
  cases keys.lookup accountId with
  | none => simp
  | some secret => cases read : library.fromSecret secret <;> simp [read]

/-- An existing key is returned by both calls, and nothing is written. -/
theorem effect_of_getKey {keys : SecretTable} {request : KeyRequest Keypair}
    {keypair : Keypair} (existing : getKey library keys request.accountId = .keypair keypair)
    : (fundingKeys library).effect keys request
      = { writes := [], memory := keys, answer := .keypair keypair } := by
  rcases fundingKeys_cases library keys request with quiet | ⟨random, -, absent, -⟩
  · rw [quiet, existing]
  · simp [getKey, absent] at existing

/-- A key in the file is recalled by a process that mirrors the file. -/
theorem Stored.recalled {state : KeyState Keypair} {accountId : JsString} {keypair : Keypair}
    {keys : SecretTable} (mirrored : Mirrored library state)
    (kept : Stored library state.world.disk.file accountId keypair)
    (live : state.world.memory = some keys) (random : Keypair)
    : ((fundingKeys library).effect keys (.getOrCreate accountId random)).answer
      = .keypair keypair := by
  obtain ⟨stored, loaded, mirrors⟩ := mirrored keys live
  obtain ⟨other, secret, same, found, read⟩ := kept
  cases loaded.symm.trans same
  have existing : getKey library keys accountId = .keypair keypair :=
    getKey_eq_keypair.mpr ⟨secret, mirrors.lookup found, read⟩
  exact congrArg Effect.answer
    (effect_of_getKey (show getKey library keys
      (KeyRequest.getOrCreate accountId random).accountId = _ from existing))

/-- What a process mirrors and hands out. -/
structure KeysTracked (library : KeypairLibrary Keypair) (state : KeyState Keypair) : Prop where
  mirrored : Mirrored library state
  stored
    : ∀ accountId keypair,
        Handed state accountId keypair
        → Stored library state.world.disk.file accountId keypair

theorem keysTracked_off (disk : Disk Json.Value)
    : KeysTracked library (Logbook.off disk) where
  mirrored := mirrored_off disk
  stored _ _ handed := by
    obtain ⟨_, _, member, -⟩ := handed
    cases member

/-- An entry that is no answer hands out nothing. -/
theorem Handed.of_quiet {state after : KeyState Keypair}
    {entry : Entry (KeyRequest Keypair) (KeyAnswer Keypair) Unit} {accountId : JsString}
    {keypair : Keypair} (handed : Handed after accountId keypair)
    (log : after.log = entry :: state.log)
    (quiet : ∀ request answer saved, entry ≠ .answered request answer saved)
    : Handed state accountId keypair := by
  obtain ⟨request, saved, member, asked⟩ := handed
  rw [log] at member
  rcases List.mem_cons.mp member with here | earlier
  · exact absurd here.symm (quiet _ _ _)
  · exact ⟨request, saved, earlier, asked⟩

/-- One event hands out only keys that are in the file, if it asks for a saved account. -/
theorem KeysTracked.step (roundTrips : library.RoundTrips) {state after : KeyState Keypair}
    {event : StoreEvent (KeyRequest Keypair) Unit} (tracked : KeysTracked library state)
    (saved : AsksForSaved state event)
    (stepped : (fundingKeys library).machine.step state event = some after)
    : KeysTracked library after := by
  refine { mirrored := mirrored_preserved _ _ _ tracked.mirrored stepped, stored := ?_ }
  intro accountId keypair handed
  have earlier (before : Handed state accountId keypair)
      : Stored library after.world.disk.file accountId keypair :=
    (tracked.stored accountId keypair before).step tracked.mirrored stepped
  cases event with
  | restart start =>
      obtain ⟨-, log, -⟩ := Store.started_cases stepped
      exact earlier (handed.of_quiet log (fun _ _ _ same => by cases same))
  | crash during =>
      obtain ⟨-, log, -⟩ := Store.crash_cases stepped
      exact earlier (handed.of_quiet log (fun _ _ _ same => by cases same))
  | call request outcomes =>
      obtain ⟨keys, live, ⟨log, -, file⟩ | ⟨done, unwritten, rest, -, log, -⟩⟩ :=
        Store.call_cases stepped
      · obtain ⟨asked, flag, member, named⟩ := handed
        rw [log] at member
        rcases List.mem_cons.mp member with here | before
        · obtain ⟨rfl, answer, -⟩ := Entry.answered.inj here
          subst named
          obtain ⟨stored, loaded, mirrors⟩ := tracked.mirrored keys live
          rcases fundingKeys_cases library keys asked with quiet | ⟨random, -, absent, creates⟩
          · rw [quiet] at answer file
            obtain ⟨secret, found, read⟩ := getKey_eq_keypair.mp answer.symm
            rw [mirrors.saved _ saved] at found
            rw [file]
            exact ⟨stored, secret, loaded, found, read⟩
          · rw [creates] at answer file
            cases answer
            rw [file]
            refine ⟨_, _, loadFundingKeys_file _, ?_, roundTrips _⟩
            simp [List.lookup_append, absent]
        · exact earlier ⟨asked, flag, before, named⟩
      · exact earlier (handed.of_quiet log (fun _ _ _ same => by cases same))

/-- A call for an account whose key could not be written hands out that key. -/
theorem not_keysKept_of_unsaved (roundTrips : library.RoundTrips)
    {state after : KeyState Keypair} {request : KeyRequest Keypair} {outcomes : List Reached}
    (mirrored : Mirrored library state) (unsaved : request.accountId ∈ unsavedAccounts state.log)
    (stepped : (fundingKeys library).machine.step state (.call request outcomes) = some after)
    : ¬ KeysKept library after := by
  obtain ⟨keys, live, ends⟩ := Store.call_cases stepped
  obtain ⟨stored, loaded, mirrors⟩ := mirrored keys live
  obtain ⟨absent, keypair, found⟩ := mirrors.unsaved request.accountId unsaved
  have existing : getKey library keys request.accountId = .keypair keypair :=
    getKey_eq_keypair.mpr ⟨_, found, roundTrips keypair⟩
  rw [effect_of_getKey existing] at ends
  rcases ends with ⟨log, -, file⟩ | ⟨done, unwritten, rest, split, -⟩
  · intro kept
    have handed : Handed after request.accountId keypair :=
      ⟨request, _, log ▸ List.mem_cons_self, rfl⟩
    obtain ⟨other, secret, same, here, -⟩ := kept.stored request.accountId keypair handed
    rw [file] at same
    cases loaded.symm.trans same
    cases absent.symm.trans here
  · simp at split

/-- Every key that is handed out is in the file and is recalled, throughout a run, exactly if
no call of the run asks for an account whose key could not be written.
-/
theorem keys_kept_iff (roundTrips : library.RoundTrips) (disk : Disk Json.Value)
    (inputs : List (StoreEvent (KeyRequest Keypair) Unit))
    : (∀ before after,
          inputs = before ++ after
          → KeysKept library ((fundingKeys library).machine.run (Logbook.off disk) before))
      ↔ ∀ state event,
          (state, event) ∈ (fundingKeys library).machine.trace (Logbook.off disk) inputs
          → AsksForSaved state event := by
  constructor
  · intro kept state event member
    obtain ⟨before, after, rfl, rfl, later, stepped⟩ := Machine.mem_trace member
    cases event with
    | restart start => trivial
    | crash during => trivial
    | call request outcomes =>
        intro unsaved
        have mirrored
            : Mirrored library
                ((fundingKeys library).machine.run (Logbook.off disk) before) :=
          mirrored_preserved.run (mirrored_off disk) before
        apply not_keysKept_of_unsaved roundTrips mirrored unsaved stepped
        rw [← Machine.next_of_step stepped]
        have reached := kept (before ++ [.call request outcomes]) after (by simp)
        rwa [Machine.run_append] at reached
  · intro saved before after split
    subst split
    have tracked
        : KeysTracked library
            ((fundingKeys library).machine.run (Logbook.off disk) before) :=
      Machine.run_of_trace
        (fun given event later member stepped tracked =>
          tracked.step roundTrips (saved given event (Machine.mem_trace_append member after))
            stepped)
        (keysTracked_off disk)
    exact {
      stored := tracked.stored
      recalled := fun accountId keypair keys handed live random =>
        (tracked.stored accountId keypair handed).recalled tracked.mirrored live random
    }

end

/-- Keys that are their own secrets. -/
def sampleKeypairs : KeypairLibrary JsString where
  secret := id
  fromSecret := Json.Value.asString

/-- A key that was written is there after a crash and a restart. -/
theorem keys_kept_after_crash
    : KeysKept sampleKeypairs
        ((fundingKeys sampleKeypairs).machine.run
          (Logbook.off { file := none, temp := none })
          [
            .restart (),
            .call (.getOrCreate (js "account") (js "seed")) [.renamed],
            .crash none,
            .restart ()
          ]) := by
  refine (keys_kept_iff (fun _ => rfl) _ _).mpr ?_ _ [] (List.append_nil _).symm
  intro state event member
  obtain ⟨before, after, split, rfl, -⟩ := Machine.mem_trace member
  rcases before with _ | ⟨first, _ | ⟨second, _ | ⟨third, _ | ⟨fourth, before⟩⟩⟩⟩
  · cases split
    trivial
  · cases split
    exact List.not_mem_nil
  · cases split
    trivial
  · cases split
    trivial
  · simp at split

/-- The write fails, and the next call hands out the key all the same. -/
theorem unsaved_key_is_handed_out
    : ¬ ∀ inputs,
        KeysKept sampleKeypairs
          ((fundingKeys sampleKeypairs).machine.run
            (Logbook.off { file := none, temp := none }) inputs) := by
  intro always
  have kept :=
    always
      [
        .restart (),
        .call (.getOrCreate (js "account") (js "seed")) [.nothing],
        .call (.getOrCreate (js "account") (js "other")) [.renamed]
      ]
  obtain ⟨keys, secret, loaded, found, -⟩ :=
    kept.stored (js "account") (js "seed")
      ⟨.getOrCreate (js "account") (js "other"), false, List.mem_cons_self, rfl⟩
  cases loaded
  cases found

end StellarOnramp.Onboard
