import StellarOnramp.Identity.Credential
import StellarOnramp.Onboard.AccountStore

/-! The status list and the credential store of the portal, and what all three stores promise of
a call whose write may fail.
-/

namespace StellarOnramp.Onboard

open DurableStore Identity InsertionMaps JsText Octets Transitions

-----------------------------------------------------------------------------------------
-- The status list
-----------------------------------------------------------------------------------------

structure StatusListFile where
  version : Nat
  revoked : List Number

/-- The indexes of a set in ascending order. -/
def revokedIndexes (revoked : List Number) : List Number :=
  revoked.insertionSort (fun left right => left ≤ right)

/-- `Set.add` -/
def addIndex (revoked : List Number) (index : Number) : List Number :=
  if index ∈ revoked then revoked else revoked ++ [index]

inductive StatusListRequest where
  | revoke (index : Number)
  | clear (index : Number)

/-- The constructor; `none` is an error, and what is no index is skipped. -/
def loadStatusList : Option (Image StatusListFile) → Option (List Number)
  | none => some []
  | some .torn => none
  | some (.whole file) =>
      if file.version ≠ 1 then
        none
      else
        some ((file.revoked.filter (fun index => 0 ≤ index)).foldl addIndex [])

/-- The revoked indexes, in the order in which they came. -/
def statusListStore : Store (List Number) StatusListFile StatusListRequest Unit Unit where
  load _ := loadStatusList
  save revoked := { version := 1, revoked := revokedIndexes revoked }
  effect revoked request :=
    match request with
    | .revoke index =>
        { writes := [addIndex revoked index], memory := addIndex revoked index, answer := () }
    | .clear index =>
        if index ∈ revoked then
          { writes := [revoked.erase index], memory := revoked.erase index, answer := () }
        else
          { writes := [], memory := revoked, answer := () }

theorem statusListStore_writeThrough : statusListStore.WriteThrough (fun _ => False) := by
  constructor
  · intro revoked request quiet
    cases request with
    | revoke index => cases quiet
    | clear index =>
        simp only [statusListStore] at quiet ⊢
        split at quiet
        case isTrue => cases quiet
        case isFalse unknown => rw [if_neg unknown]
  · intro revoked request writes
    refine ⟨?_, id⟩
    cases request with
    | revoke index => rfl
    | clear index =>
        simp only [statusListStore] at writes ⊢
        split at writes
        case isTrue known => rw [if_pos known]
        case isFalse => exact absurd rfl writes

-----------------------------------------------------------------------------------------
-- The credential store
-----------------------------------------------------------------------------------------

structure PersistedCredential where
  walletAddress : JsString
  credential : SerializedCredential
  subjectBindingSaltHex : JsString
  storedAt : Int

structure CredentialFile where
  version : Nat
  credentials : List PersistedCredential

structure StoredCredential where
  credential : Credential
  subjectBindingSalt : Bytes
  walletAddress : JsString
  storedAt : Int

abbrev CredentialTable := List (JsString × PersistedCredential)

inductive CredentialRequest where
  | put (record : StoredCredential)
  | delete (walletAddress : JsString)

inductive CredentialAnswer where
  | stored
  | deleted (had : Bool)
  | thrown (message : JsString)

def CredentialAnswer.Throws : CredentialAnswer → Prop
  | thrown _ => True
  | _ => False

/-- The constructor; `none` is an error. -/
def loadCredentials : Option (Image CredentialFile) → Option CredentialTable
  | none => some []
  | some .torn => none
  | some (.whole file) =>
      if file.version ≠ 1 then
        none
      else
        some
          (file.credentials.foldl (fun table record => setEntry table record.walletAddress record) [])

/-- The record as it is written. -/
def StoredCredential.persisted (record : StoredCredential) : PersistedCredential where
  walletAddress := record.walletAddress
  credential := serializeCredential record.credential
  subjectBindingSaltHex := bytesToHex record.subjectBindingSalt
  storedAt := record.storedAt

def credentialStore
    : Store CredentialTable CredentialFile CredentialRequest CredentialAnswer Unit where
  load _ := loadCredentials
  save table := { version := 1, credentials := table.map Prod.snd }
  effect table request :=
    match request with
    | .put record =>
        if record.subjectBindingSalt.length ≠ 32 then
          {
            writes := []
            memory := table
            answer :=
              .thrown
                (js "refusing to store a " ++ numberText record.subjectBindingSalt.length
                  ++ js ("-byte subject-binding salt; the credential could never be verified "
                    ++ "against it"))
          }
        else
          let next := setEntry table record.walletAddress record.persisted
          { writes := [next], memory := next, answer := .stored }
    | .delete walletAddress =>
        if (table.lookup walletAddress).isSome then
          let next := deleteEntry table walletAddress
          { writes := [next], memory := next, answer := .deleted true }
        else
          { writes := [], memory := table, answer := .deleted false }

theorem credentialStore_writeThrough : credentialStore.WriteThrough CredentialAnswer.Throws := by
  constructor
  · intro table request quiet
    cases request with
    | put record =>
        simp only [credentialStore] at quiet ⊢
        split at quiet
        case isTrue short => rw [if_pos short]
        case isFalse => cases quiet
    | delete walletAddress =>
        simp only [credentialStore] at quiet ⊢
        split at quiet
        case isTrue => cases quiet
        case isFalse unknown => rw [if_neg unknown]
  · intro table request writes
    cases request with
    | put record =>
        simp only [credentialStore] at writes ⊢
        split at writes
        case isTrue => exact absurd rfl writes
        case isFalse long =>
          rw [if_neg long]
          exact ⟨rfl, id⟩
    | delete walletAddress =>
        simp only [credentialStore] at writes ⊢
        split at writes
        case isTrue known =>
          rw [if_pos known]
          exact ⟨rfl, id⟩
        case isFalse => exact absurd rfl writes

-----------------------------------------------------------------------------------------
-- Failing writes
-----------------------------------------------------------------------------------------

section

variable {Memory Body Request Answer : Type}

/-- Every run of spared calls is all or nothing, from any state whose file is in step, and a
call from such a state that is not spared is not.
-/
def AtomicWhereSpared (store : Store Memory Body Request Answer Unit) (refusal : Answer → Prop)
    (fresh : Memory)
    : Prop :=
  ∀ world,
    store.Synced fresh world
    → (∀ call, store.Atomic refusal fresh world call ↔ store.Spared world call)
      ∧ ∀ inputs,
          (∀ given call,
            (given, call) ∈ store.calls.trace world inputs → store.Spared given call)
          → store.Synced fresh (store.calls.run world inputs)
            ∧ ∀ given call,
                (given, call) ∈ store.calls.trace world inputs
                → store.Atomic refusal fresh given call

theorem atomicWhereSpared {store : Store Memory Body Request Answer Unit}
    {refusal : Answer → Prop} (through : store.WriteThrough refusal) (fresh : Memory)
    : AtomicWhereSpared store refusal fresh :=
  fun _ synced =>
    ⟨fun _ => through.atomic_iff synced, fun _ spared => through.run synced spared⟩

end

/-- Calls of the three stores are all or nothing as long as no write fails that had something to
change; and in every run of the account store, whatever fails, its two maps agree and no two
accounts share an email.
-/
theorem stores_atomic_where_writes_land (toLowerCase : JsString → JsString)
    : AtomicWhereSpared (accountStore toLowerCase) AccountAnswer.Throws .empty
      ∧ AtomicWhereSpared credentialStore CredentialAnswer.Throws []
      ∧ AtomicWhereSpared statusListStore (fun _ => False) []
      ∧ ∀ (disk : Disk PersistedFile) (inputs : List (StoreEvent AccountRequest Unit)),
          FileConsistent disk.file
          → (∀ given event,
              (given, event) ∈ (accountStore toLowerCase).machine.trace (Logbook.off disk) inputs
              → NewIds given event)
          → ∀ maps,
              ((accountStore toLowerCase).machine.run (Logbook.off disk) inputs).world.memory
                = some maps
              → maps.Consistent := by
  refine ⟨atomicWhereSpared (accountStore_writeThrough toLowerCase) _,
    atomicWhereSpared credentialStore_writeThrough _,
    atomicWhereSpared statusListStore_writeThrough _, fun disk inputs good newIds => ?_⟩
  exact (accountsAgree_run good newIds).memory

/-- A process with a new account store. -/
def newAccountWorld : World AccountMaps PersistedFile where
  disk := { file := none, temp := none }
  memory := some .empty

def sampleCreate : AccountRequest :=
  .create (js "ada@example.com") (js "long enough") (js "id-1") (js "scrypt$") 1700000000

/-- A create whose write lands is all or nothing, and the accounts of a process that creates one
agree.
-/
theorem stores_atomic_where_writes_land_created
    : (accountStore id).Atomic AccountAnswer.Throws .empty newAccountWorld
          (sampleCreate, .renamed)
      ∧ ∃ maps,
          ((accountStore id).machine.run (Logbook.off { file := none, temp := none })
              [.restart (), .call sampleCreate [.renamed]]).world.memory
            = some maps
          ∧ maps.accounts.map Prod.fst = [js "id-1"]
          ∧ maps.Consistent := by
  obtain ⟨accounts, -, -, agree⟩ := stores_atomic_where_writes_land id
  have synced : (accountStore id).Synced .empty newAccountWorld := ⟨.empty, rfl, rfl⟩
  refine ⟨((accounts newAccountWorld synced).1 _).mpr (.inl rfl), _, rfl, by decide, ?_⟩
  refine
    agree { file := none, temp := none } [.restart (), .call sampleCreate [.renamed]] (.inl rfl)
      ?_ _ rfl
  intro given event member
  rcases Machine.mem_trace_cons.mp member with ⟨rfl, rfl, -⟩ | member
  · trivial
  rcases Machine.mem_trace_cons.mp member with ⟨rfl, rfl, -⟩ | member
  · rintro maps ⟨⟩
    exact List.not_mem_nil
  cases member

/-- A create whose write fails leaves an account in memory, and the same create is refused then. -/
theorem failed_create_is_kept
    : (accountStore id).Synced .empty newAccountWorld
      ∧ ¬ (accountStore id).Atomic AccountAnswer.Throws .empty newAccountWorld
            (sampleCreate, .nothing)
      ∧ ∃ after,
          (accountStore id).perform newAccountWorld sampleCreate [.nothing] = some (after, none)
          ∧ ∃ maps,
              after.memory = some maps
              ∧ ((accountStore id).effect maps sampleCreate).answer = .thrown emailInUse := by
  have synced : (accountStore id).Synced .empty newAccountWorld := ⟨.empty, rfl, rfl⟩
  refine ⟨synced, fun atomic => ?_, _, rfl, _, rfl, rfl⟩
  have grown : (((accountStore id).effect .empty sampleCreate).memory.accounts).length = 1 := by
    decide
  rcases ((accountStore_writeThrough id).atomic_iff synced).mp atomic with landed | kept
  · cases landed
  · rw [kept .empty rfl] at grown
    cases grown

end StellarOnramp.Onboard
