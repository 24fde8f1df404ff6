import StellarOnramp.Library.Attempts
import StellarOnramp.Library.InsertionMaps
import StellarOnramp.Library.WriteThrough
import StellarOnramp.Onboard.Portal

/-! The account store: two maps in memory, and one file. Both maps change before the file is
written, so they always agree with each other, and a write that fails leaves an account that no
file holds.
-/

namespace StellarOnramp.Onboard

open Attempts DurableStore InsertionMaps JsText Transitions

-----------------------------------------------------------------------------------------
-- Emails and passwords
-----------------------------------------------------------------------------------------

/-- `toLowerCase` is that of the language. -/
def normalizeEmail (toLowerCase : JsString → JsString) (raw : JsString) : JsString := toLowerCase (trim raw)

def isLowerLetter (unit : UInt16) : Bool := 97 ≤ unit && unit ≤ 122

/-- `[a-z0-9.-]` -/
def isDomainUnit (unit : UInt16) : Bool :=
  isLowerLetter unit || isDigit unit || unit == 46 || unit == 45

/-- `/^[a-z0-9.-]+\.[a-z]{2,}$/`: only the last dot can be the one before the letters. -/
def isDomain (domain : JsString) : Bool :=
  match domain.reverse.dropWhile isLowerLetter with
  | 46 :: host =>
      2 ≤ (domain.reverse.takeWhile isLowerLetter).length && host != [] && host.all isDomainUnit
  | _ => false

def invalidEmail : PortalAccountError where
  status := 400
  code := js "invalid_email"
  message := js "enter a valid email address"

def assertEmail (toLowerCase : JsString → JsString) (raw : JsString)
    : Except PortalAccountError JsString := do
  let email := normalizeEmail toLowerCase raw
  failIf (email = [] ∨ 254 < email.length) invalidEmail
  failIf (email.any isWhiteSpace = true) invalidEmail
  match email.idxOf? 64 with
  | none | some 0 => .error invalidEmail
  | some position => do
      let domain := email.drop (position + 1)
      failIf (64 ∈ domain) invalidEmail
      failIf (isDomain domain = false) invalidEmail
      .ok email

def minPasswordLength : Nat := 8

def weakPassword (message : JsString) : PortalAccountError where
  status := 400
  code := js "weak_password"
  message

def assertPassword (password : JsString) : Except PortalAccountError Unit := do
  failIf (password.length < minPasswordLength)
    (weakPassword
      (js "password must be at least " ++ numberText minPasswordLength ++ js " characters"))
  failIf (1024 < password.length) (weakPassword (js "password is too long"))

-----------------------------------------------------------------------------------------
-- The store
-----------------------------------------------------------------------------------------

/-- An account with what only the store knows of it. -/
structure StoredAccount extends AccountRecord where
  id : JsString
  passwordHash : JsString
  createdAt : Int

/-- The two maps of the store, in insertion order. -/
structure AccountMaps where
  accounts : List (JsString × StoredAccount)
  byEmail : List (JsString × JsString)

def AccountMaps.empty : AccountMaps where
  accounts := []
  byEmail := []

/-- Set an account in both maps. -/
def AccountMaps.set (maps : AccountMaps) (account : StoredAccount) : AccountMaps where
  accounts := setEntry maps.accounts account.id account
  byEmail := setEntry maps.byEmail account.email account.id

/-- The accounts that the file lists. -/
structure PersistedFile where
  version : Nat
  accounts : List StoredAccount

def persistedAccounts (maps : AccountMaps) : PersistedFile where
  version := 1
  accounts := maps.accounts.map Prod.snd

/-- The constructor; `none` is an error. -/
def loadAccounts : Option (Image PersistedFile) → Option AccountMaps
  | none => some .empty
  | some .torn => none
  | some (.whole file) => some (file.accounts.foldl AccountMaps.set .empty)

/-- A mutating call, with the random id, the salted hash and the time that it uses. -/
inductive AccountRequest where
  | create (email password id passwordHash : JsString) (createdAt : Int)
  | update (id : JsString) (patch : AccountPatch)

inductive AccountAnswer where
  | account (account : StoredAccount)
  | thrown (error : PortalAccountError)

def AccountAnswer.Throws : AccountAnswer → Prop
  | account _ => False
  | thrown _ => True

def emailInUse : PortalAccountError where
  status := 409
  code := js "email_in_use"
  message := js "an account already exists for this email"

def unauthenticated : PortalAccountError where
  status := 401
  code := js "unauthenticated"
  message := js "sign in to continue"

/-- `create` up to its write. -/
def createAccount (toLowerCase : JsString → JsString) (maps : AccountMaps)
    (email password id passwordHash : JsString) (createdAt : Int)
    : Except PortalAccountError StoredAccount := do
  let email ← assertEmail toLowerCase email
  assertPassword password
  failIf ((maps.byEmail.lookup email).isSome = true) emailInUse
  .ok { newAccount email with id, passwordHash, createdAt }

/-- `update` up to its write. -/
def patchAccount (maps : AccountMaps) (id : JsString) (patch : AccountPatch)
    : Except PortalAccountError StoredAccount :=
  match maps.accounts.lookup id with
  | none => .error unauthenticated
  | some existing =>
      .ok { existing with toAccountRecord := existing.toAccountRecord.patched patch }

/-- A call that throws leaves the maps; otherwise they change and are written. -/
def accountEffect (maps : AccountMaps)
    : Except PortalAccountError (AccountMaps × StoredAccount) → Effect AccountMaps AccountAnswer
  | .error error => { writes := [], memory := maps, answer := .thrown error }
  | .ok (next, account) => { writes := [next], memory := next, answer := .account account }

def accountStore (toLowerCase : JsString → JsString)
    : Store AccountMaps PersistedFile AccountRequest AccountAnswer Unit where
  load _ := loadAccounts
  save := persistedAccounts
  effect maps request :=
    match request with
    | .create email password id passwordHash createdAt =>
        accountEffect maps do
          let account ← createAccount toLowerCase maps email password id passwordHash createdAt
          .ok (maps.set account, account)
    | .update id patch =>
        accountEffect maps do
          let account ← patchAccount maps id patch
          .ok ({ maps with accounts := setEntry maps.accounts id account }, account)

-----------------------------------------------------------------------------------------
-- The maps
-----------------------------------------------------------------------------------------

/-- The maps agree: every account stands under its id, and the emails are those of the accounts,
all of them different.
-/
structure AccountMaps.Consistent (maps : AccountMaps) : Prop where
  keyed : ∀ entry ∈ maps.accounts, entry.2.id = entry.1
  ids : (maps.accounts.map Prod.fst).Nodup
  emails : (maps.accounts.map (fun entry => entry.2.email)).Nodup
  indexed : maps.byEmail = maps.accounts.map (fun entry => (entry.2.email, entry.1))

theorem AccountMaps.consistent_empty : AccountMaps.empty.Consistent where
  keyed := by rintro _ ⟨⟩
  ids := List.nodup_nil
  emails := List.nodup_nil
  indexed := rfl

/-- A new account under a new id comes last and keeps the maps in agreement. -/
theorem AccountMaps.Consistent.set {maps : AccountMaps} (consistent : maps.Consistent)
    {account : StoredAccount} (newId : account.id ∉ maps.accounts.map Prod.fst)
    (newEmail : account.email ∉ maps.byEmail.map Prod.fst)
    : (maps.set account).Consistent
      ∧ (maps.set account).accounts = maps.accounts ++ [(account.id, account)] := by
  have accounts : (maps.set account).accounts = maps.accounts ++ [(account.id, account)] :=
    setEntry_of_not_mem newId account
  have byEmail : (maps.set account).byEmail = maps.byEmail ++ [(account.email, account.id)] :=
    setEntry_of_not_mem newEmail account.id
  have emails : account.email ∉ maps.accounts.map (fun entry => entry.2.email) := by
    rw [consistent.indexed, List.map_map] at newEmail
    exact newEmail
  refine ⟨?_, accounts⟩
  constructor
  · intro entry member
    rw [accounts] at member
    rcases List.mem_append.mp member with old | new
    · exact consistent.keyed entry old
    · rw [List.mem_singleton.mp new]
  · rw [accounts, List.map_append]
    exact List.nodup_append_comm.mp (List.nodup_cons.mpr ⟨newId, consistent.ids⟩)
  · rw [accounts, List.map_append]
    exact List.nodup_append_comm.mp (List.nodup_cons.mpr ⟨emails, consistent.emails⟩)
  · rw [accounts, byEmail, List.map_append, ← consistent.indexed]
    rfl

/-- A patched account keeps its place, its id and its email. -/
theorem AccountMaps.Consistent.patch {maps : AccountMaps} (consistent : maps.Consistent)
    {id : JsString} {existing account : StoredAccount}
    (found : maps.accounts.lookup id = some existing) (sameId : account.id = existing.id)
    (sameEmail : account.email = existing.email)
    : ({ maps with accounts := setEntry maps.accounts id account } : AccountMaps).Consistent := by
  have member := mem_of_lookup found
  have known : id ∈ maps.accounts.map Prod.fst := List.mem_map_of_mem member
  have unique (entry : JsString × StoredAccount) (there : entry ∈ maps.accounts)
      (same : entry.1 = id)
      : entry = (id, existing) :=
    List.inj_on_of_nodup_map consistent.ids there member same
  have ids : (setEntry maps.accounts id account).map Prod.fst = maps.accounts.map Prod.fst :=
    map_setEntry known fun _ _ same => same.symm
  constructor
  · intro entry there
    rw [setEntry_of_mem known] at there
    obtain ⟨old, oldMember, rfl⟩ := List.mem_map.mp there
    split
    · exact sameId.trans (consistent.keyed _ member)
    · exact consistent.keyed old oldMember
  · exact ids ▸ consistent.ids
  · have emails
        : (setEntry maps.accounts id account).map (fun entry => entry.2.email)
          = maps.accounts.map (fun entry => entry.2.email) :=
      map_setEntry known fun entry there same => by rw [unique entry there same, sameEmail]
    exact emails ▸ consistent.emails
  · have pairs
        : (setEntry maps.accounts id account).map (fun entry => (entry.2.email, entry.1))
          = maps.accounts.map (fun entry => (entry.2.email, entry.1)) :=
      map_setEntry known fun entry there same => by rw [unique entry there same, sameEmail]
    exact consistent.indexed.trans pairs.symm

-----------------------------------------------------------------------------------------
-- Calls
-----------------------------------------------------------------------------------------

section

variable {toLowerCase : JsString → JsString} {maps : AccountMaps}

/-- A new account has the email that was checked, and nobody had it. -/
theorem createAccount_eq_ok {email password id passwordHash : JsString} {createdAt : Int}
    {account : StoredAccount}
    (created
      : createAccount toLowerCase maps email password id passwordHash createdAt = .ok account)
    : account.id = id
      ∧ assertEmail toLowerCase email = .ok account.email
      ∧ account.email ∉ maps.byEmail.map Prod.fst := by
  obtain ⟨address, checked, created⟩ := bind_eq_ok.mp created
  obtain ⟨_, -, created⟩ := bind_eq_ok.mp created
  obtain ⟨unused, created⟩ := failIf_bind_eq_ok.mp created
  obtain rfl := Except.ok.inj created
  exact ⟨rfl, checked, lookup_eq_none_iff.mp (Option.not_isSome_iff_eq_none.mp unused)⟩

theorem patchAccount_eq_ok {id : JsString} {patch : AccountPatch} {account : StoredAccount}
    (patched : patchAccount maps id patch = .ok account)
    : ∃ existing,
        maps.accounts.lookup id = some existing
        ∧ account = { existing with toAccountRecord := existing.toAccountRecord.patched patch } := by
  unfold patchAccount at patched
  split at patched
  case h_1 => cases patched
  case h_2 existing found => exact ⟨existing, found, (Except.ok.inj patched).symm⟩

/-- The store writes what it leaves in memory, once, and refuses without a change. -/
theorem accountStore_writeThrough (toLowerCase : JsString → JsString)
    : (accountStore toLowerCase).WriteThrough AccountAnswer.Throws := by
  have either (maps : AccountMaps) (next : Except PortalAccountError (AccountMaps × StoredAccount))
      : ((accountEffect maps next).writes = [] → (accountEffect maps next).memory = maps)
        ∧ ((accountEffect maps next).writes ≠ []
          → (accountEffect maps next).writes = [(accountEffect maps next).memory]
            ∧ ¬ (accountEffect maps next).answer.Throws) := by
    cases next with
    | error error => exact ⟨fun _ => rfl, fun writes => absurd rfl writes⟩
    | ok result => exact ⟨nofun, fun _ => ⟨rfl, id⟩⟩
  constructor
  · intro maps request
    cases request <;> exact (either maps _).1
  · intro maps request
    cases request <;> exact (either maps _).2

end

-----------------------------------------------------------------------------------------
-- Runs
-----------------------------------------------------------------------------------------

/-- The id of a new account is new, as `randomUUID` promises. -/
def AccountRequest.NewId (maps : AccountMaps) : AccountRequest → Prop
  | create _ _ id _ _ => id ∉ maps.accounts.map Prod.fst
  | update _ _ => True

abbrev AccountState := Logbook AccountMaps PersistedFile AccountRequest AccountAnswer Unit

/-- The calls of a run use new ids. -/
def NewIds (state : AccountState) : StoreEvent AccountRequest Unit → Prop
  | .call request _ | .crash (some (request, _)) =>
      ∀ maps, state.world.memory = some maps → request.NewId maps
  | _ => True

/-- The file holds consistent accounts, or it is missing. -/
def FileConsistent (file : Option (Image PersistedFile)) : Prop :=
  file = none ∨ ∃ maps : AccountMaps, maps.Consistent ∧ file = some (.whole (persistedAccounts maps))

structure AccountsAgree (state : AccountState) : Prop where
  memory : ∀ maps, state.world.memory = some maps → maps.Consistent
  file : FileConsistent state.world.disk.file

section

variable {toLowerCase : JsString → JsString} {maps : AccountMaps} {request : AccountRequest}

theorem accountEffect_consistent (consistent : maps.Consistent)
    {next : Except PortalAccountError (AccountMaps × StoredAccount)}
    (kept : ∀ result, next = .ok result → result.1.Consistent)
    : (∀ written ∈ (accountEffect maps next).writes, written.Consistent)
      ∧ (accountEffect maps next).memory.Consistent := by
  cases next with
  | error error => exact ⟨nofun, consistent⟩
  | ok result =>
      refine ⟨fun written member => ?_, kept result rfl⟩
      exact List.mem_singleton.mp member ▸ kept result rfl

/-- What a call writes and what it leaves agree. -/
theorem effect_consistent (consistent : maps.Consistent) (newId : request.NewId maps)
    : (∀ written ∈ ((accountStore toLowerCase).effect maps request).writes, written.Consistent)
      ∧ ((accountStore toLowerCase).effect maps request).memory.Consistent := by
  cases request with
  | create email password id passwordHash createdAt =>
      refine accountEffect_consistent consistent fun result same => ?_
      obtain ⟨account, created, rfl⟩ := bind_ok_eq_ok.mp same
      obtain ⟨rfl, -, newEmail⟩ := createAccount_eq_ok created
      exact (consistent.set newId newEmail).1
  | update id patch =>
      refine accountEffect_consistent consistent fun result same => ?_
      obtain ⟨account, patched, rfl⟩ := bind_ok_eq_ok.mp same
      obtain ⟨existing, found, rfl⟩ := patchAccount_eq_ok patched
      exact consistent.patch found rfl rfl

/-- Reading back the rest of a file completes the maps, by induction on the rest. -/
theorem foldl_set {whole : AccountMaps} (complete : whole.Consistent)
    {rest : List (JsString × StoredAccount)} {start : AccountMaps} (consistent : start.Consistent)
    (split : whole.accounts = start.accounts ++ rest)
    : (rest.map Prod.snd).foldl AccountMaps.set start = whole := by
  induction rest generalizing start with
  | nil =>
      obtain ⟨accounts, byEmail⟩ := start
      obtain ⟨all, index⟩ := whole
      obtain rfl : all = accounts := split.trans (List.append_nil _)
      obtain rfl : byEmail = index := consistent.indexed.trans complete.indexed.symm
      rfl
  | cons entry rest ih =>
      obtain ⟨key, account⟩ := entry
      obtain rfl : account.id = key :=
        complete.keyed _ (split ▸ List.mem_append_right _ List.mem_cons_self)
      have ids := complete.ids
      have emails := complete.emails
      rw [split, List.map_append, List.nodup_append] at ids emails
      have newId : account.id ∉ start.accounts.map Prod.fst := fun member =>
        ids.2.2 _ member _ List.mem_cons_self rfl
      have newEmail : account.email ∉ start.byEmail.map Prod.fst := by
        rw [consistent.indexed, List.map_map]
        exact fun member => emails.2.2 _ member _ List.mem_cons_self rfl
      obtain ⟨next, accounts⟩ := consistent.set newId newEmail
      refine ih next ?_
      rw [split, accounts, List.append_assoc]
      rfl

/-- The file of consistent accounts reads back as they were. -/
theorem loadAccounts_file (consistent : maps.Consistent)
    : loadAccounts (some (.whole (persistedAccounts maps))) = some maps :=
  congrArg some (foldl_set consistent AccountMaps.consistent_empty rfl)

theorem loadAccounts_consistent {file : Option (Image PersistedFile)} (good : FileConsistent file)
    (loaded : loadAccounts file = some maps)
    : maps.Consistent := by
  rcases good with rfl | ⟨stored, consistent, rfl⟩
  · exact Option.some.inj loaded ▸ AccountMaps.consistent_empty
  · exact Option.some.inj ((loadAccounts_file consistent).symm.trans loaded) ▸ consistent

/-- Writes of consistent accounts leave a file of consistent accounts. -/
theorem written_consistent {file : Option (Image PersistedFile)} {done : List AccountMaps}
    (good : FileConsistent file) (every : ∀ written ∈ done, written.Consistent)
    : FileConsistent ((accountStore toLowerCase).written file done) := by
  rcases (accountStore toLowerCase).written_cases file done with same | ⟨maps, member, same⟩
  · rwa [same]
  · exact .inr ⟨maps, every maps member, same⟩

theorem accountsAgree_step {state after : AccountState} {event : StoreEvent AccountRequest Unit}
    (agree : AccountsAgree state) (newIds : NewIds state event)
    (stepped : (accountStore toLowerCase).machine.step state event = some after)
    : AccountsAgree after := by
  cases event with
  | call request outcomes =>
      obtain ⟨maps, live, ends⟩ := Store.call_cases stepped
      obtain ⟨writes, left⟩ :=
        @effect_consistent toLowerCase _ _ (agree.memory maps live) (newIds maps live)
      rcases ends with ⟨-, kept, file⟩ | ⟨done, unwritten, rest, split, -, kept, file⟩
      · refine ⟨fun held same => ?_, file ▸ written_consistent agree.file writes⟩
        exact Option.some.inj (kept.symm.trans same) ▸ left
      · have every := List.forall_mem_append.mp (split ▸ writes)
        refine ⟨fun held same => ?_, file ▸ written_consistent agree.file every.1⟩
        exact Option.some.inj (kept.symm.trans same) ▸ every.2 unwritten List.mem_cons_self
  | crash during =>
      obtain ⟨down, -, ends⟩ := Store.crash_cases stepped
      refine ⟨fun held same => (nomatch down.symm.trans same), ?_⟩
      rcases ends with ⟨-, file⟩ | ⟨request, outcomes, maps, done, rest, rfl, live, split, file⟩
      · exact file ▸ agree.file
      · obtain ⟨writes, -⟩ :=
          @effect_consistent toLowerCase _ _ (agree.memory maps live) (newIds maps live)
        have every := List.forall_mem_append.mp (split ▸ writes)
        exact file ▸ written_consistent agree.file every.1
  | restart start =>
      obtain ⟨disk, -, maps, loaded, live⟩ := Store.started_cases stepped
      refine ⟨fun held same => ?_, disk ▸ agree.file⟩
      obtain rfl := Option.some.inj (live.symm.trans same)
      exact loadAccounts_consistent agree.file loaded

/-- In every reachable state, whatever failed before it, the two maps agree. -/
theorem accountsAgree_run {disk : Disk PersistedFile} (good : FileConsistent disk.file)
    {inputs : List (StoreEvent AccountRequest Unit)}
    (newIds
      : ∀ given event,
          (given, event) ∈ (accountStore toLowerCase).machine.trace (Logbook.off disk) inputs
          → NewIds given event)
    : AccountsAgree ((accountStore toLowerCase).machine.run (Logbook.off disk) inputs) :=
  Machine.run_of_trace
    (fun given event _ member stepped agree =>
      accountsAgree_step agree (newIds given event member) stepped)
    ⟨nofun, good⟩

end

end StellarOnramp.Onboard
