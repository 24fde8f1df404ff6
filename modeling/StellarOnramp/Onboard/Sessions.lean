import StellarOnramp.Library.DurableStore
import StellarOnramp.Library.JsText
import Mathlib.Algebra.Order.Ring.Rat

/-! The sign-in sessions of the portal, in a file. A session leaves memory before the file is
written without it, so a session that was destroyed is back after a failed write and a
restart. Times are unix seconds and may be fractions.
-/

namespace StellarOnramp.Onboard

open JsText
open DurableStore
open Transitions

-----------------------------------------------------------------------------------------
-- The store
-----------------------------------------------------------------------------------------

structure PersistedSession where
  tokenHash : JsString
  accountId : JsString
  expiresAt : ℚ
  deriving DecidableEq

/-- What `JSON.stringify` writes and `JSON.parse` reads back. -/
structure PersistedSessionsFile where
  version : Nat
  sessions : List PersistedSession

/-- The map from hashes to sessions, in insertion order. -/
abbrev SessionTable := List PersistedSession

/-- `Map.set`: a known hash keeps its place. -/
def setSession (table : SessionTable) (session : PersistedSession) : SessionTable :=
  if table.any (fun other => other.tokenHash = session.tokenHash) then
    table.map (fun other => if other.tokenHash = session.tokenHash then session else other)
  else
    table ++ [session]

def findSession (table : SessionTable) (tokenHash : JsString) : Option PersistedSession :=
  table.find? (fun session => session.tokenHash = tokenHash)

def deleteSession (table : SessionTable) (tokenHash : JsString) : SessionTable :=
  table.filter (fun session => session.tokenHash ≠ tokenHash)

/-- The constructor at a clock reading; `none` is an error, and expired sessions are skipped. -/
def loadSessions (now : ℚ) : Option (Image PersistedSessionsFile) → Option SessionTable
  | none => some []
  | some .torn => none
  | some (.whole file) =>
      if file.version ≠ 1 then
        none
      else
        some ((file.sessions.filter (fun session => now < session.expiresAt)).foldl setSession [])

/-- A call, with the clock readings and the random token that it uses. -/
inductive SessionRequest where
  | create (accountId token : JsString) (sweepNow now : ℚ)
  | resolve (token : Option JsString) (now : ℚ)
  | destroy (token : Option JsString)

inductive SessionAnswer where
  | token (token : JsString)
  | account (accountId : Option JsString)
  | done

/-- The sessions that a sweep leaves. -/
def sweepSessions (table : SessionTable) (now : ℚ) : SessionTable :=
  table.filter (fun session => now < session.expiresAt)

/-- What a call does; a sweep and a deletion write only what they changed. -/
def sessionEffect (hashToken : JsString → JsString) (ttl : ℚ) (table : SessionTable)
    : SessionRequest → Effect SessionTable SessionAnswer
  | .create accountId token sweepNow now =>
      let kept := sweepSessions table sweepNow
      let swept := if kept.length < table.length then [kept] else []
      let opened :=
        setSession kept { tokenHash := hashToken token, accountId, expiresAt := now + ttl }
      { writes := swept ++ [opened], memory := opened, answer := .token token }
  | .resolve none _ => { writes := [], memory := table, answer := .account none }
  | .resolve (some token) now =>
      if token = [] then
        { writes := [], memory := table, answer := .account none }
      else
        match findSession table (hashToken token) with
        | none => { writes := [], memory := table, answer := .account none }
        | some session =>
            if session.expiresAt ≤ now then
              let table := deleteSession table session.tokenHash
              { writes := [table], memory := table, answer := .account none }
            else
              { writes := [], memory := table, answer := .account (some session.accountId) }
  | .destroy none => { writes := [], memory := table, answer := .done }
  | .destroy (some token) =>
      if table.any (fun session => session.tokenHash = hashToken token) then
        let table := deleteSession table (hashToken token)
        { writes := [table], memory := table, answer := .done }
      else
        { writes := [], memory := table, answer := .done }

/-- The store with a file; it starts at a clock reading. -/
def portalSessions (hashToken : JsString → JsString) (ttl : ℚ)
    : Store SessionTable PersistedSessionsFile SessionRequest SessionAnswer ℚ where
  load := loadSessions
  save table := { version := 1, sessions := table }
  effect := sessionEffect hashToken ttl

-----------------------------------------------------------------------------------------
-- What calls leave in a table
-----------------------------------------------------------------------------------------

theorem mem_setSession {table : SessionTable} {session other : PersistedSession}
    (member : other ∈ setSession table session)
    : other = session ∨ other ∈ table := by
  unfold setSession at member
  split at member
  case isTrue =>
    obtain ⟨before, known, rfl⟩ := List.mem_map.mp member
    split
    · exact .inl rfl
    · exact .inr known
  case isFalse =>
    rcases List.mem_append.mp member with known | new
    · exact .inr known
    · exact .inl (List.mem_singleton.mp new)

theorem mem_deleteSession {table : SessionTable} {tokenHash : JsString}
    {session : PersistedSession}
    : session ∈ deleteSession table tokenHash
      ↔ session ∈ table ∧ session.tokenHash ≠ tokenHash := by
  simp [deleteSession]

/-- A loaded session is in the file, and it is live. -/
theorem mem_foldl_setSession {sessions table : SessionTable} {session : PersistedSession}
    (member : session ∈ sessions.foldl setSession table)
    : session ∈ sessions ∨ session ∈ table := by
  induction sessions generalizing table with
  | nil => exact .inr member
  | cons first rest ih =>
      rcases ih member with later | here
      · exact .inl (List.mem_cons_of_mem _ later)
      · rcases mem_setSession here with rfl | before
        · exact .inl List.mem_cons_self
        · exact .inr before

/-- A loaded session is a live one of the file. -/
theorem mem_loadSessions {now : ℚ} {content : Option (Image PersistedSessionsFile)}
    {table : SessionTable} {session : PersistedSession}
    (loaded : loadSessions now content = some table) (member : session ∈ table)
    : ∃ file,
        content = some (.whole file)
        ∧ session ∈ file.sessions
        ∧ now < session.expiresAt := by
  cases content with
  | none =>
      cases loaded
      cases member
  | some image =>
      cases image with
      | torn => cases loaded
      | whole file =>
          simp only [loadSessions] at loaded
          split at loaded
          case isTrue => cases loaded
          case isFalse =>
            cases loaded
            rcases mem_foldl_setSession member with live | none
            · obtain ⟨inside, fresh⟩ := List.mem_filter.mp live
              exact ⟨file, rfl, inside, by simpa using fresh⟩
            · cases none

/-- A hash stays in the table, and so does the hash of the new session. -/
theorem exists_setSession {table : SessionTable} {session : PersistedSession}
    {tokenHash : JsString}
    (known : session.tokenHash = tokenHash ∨ ∃ other ∈ table, other.tokenHash = tokenHash)
    : ∃ other ∈ setSession table session, other.tokenHash = tokenHash := by
  unfold setSession
  split
  case isTrue present =>
    have here : ∃ other ∈ table, other.tokenHash = tokenHash := by
      rcases known with rfl | there
      · simpa using present
      · exact there
    obtain ⟨other, member, rfl⟩ := here
    refine ⟨_, List.mem_map.mpr ⟨other, member, rfl⟩, ?_⟩
    split
    case isTrue same => exact same.symm
    case isFalse => rfl
  case isFalse =>
    rcases known with rfl | ⟨other, member, rfl⟩
    · exact ⟨session, List.mem_append_right _ List.mem_cons_self, rfl⟩
    · exact ⟨other, List.mem_append_left _ member, rfl⟩

/-- Every hash of the list is in the table that is built from it, by list induction. -/
theorem exists_foldl_setSession {sessions table : SessionTable} {tokenHash : JsString}
    (known
      : (∃ other ∈ sessions, other.tokenHash = tokenHash)
        ∨ ∃ other ∈ table, other.tokenHash = tokenHash)
    : ∃ other ∈ sessions.foldl setSession table, other.tokenHash = tokenHash := by
  induction sessions generalizing table with
  | nil =>
      rcases known with ⟨other, none, -⟩ | there
      · cases none
      · exact there
  | cons first rest ih =>
      rcases known with ⟨other, member, rfl⟩ | there
      · rcases List.mem_cons.mp member with rfl | later
        · exact ih (.inr (exists_setSession (.inl rfl)))
        · exact ih (.inl ⟨other, later, rfl⟩)
      · exact ih (.inr (exists_setSession (.inr there)))

/-- A live session of the file is found by the process that starts with it. -/
theorem findSession_loaded {now : ℚ} {file : PersistedSessionsFile} {table : SessionTable}
    {session : PersistedSession}
    (loaded : loadSessions now (some (.whole file)) = some table)
    (member : session ∈ file.sessions) (fresh : now < session.expiresAt)
    : ∃ found,
        findSession table session.tokenHash = some found ∧ now < found.expiresAt := by
  have built
      : table
        = (file.sessions.filter (fun session => now < session.expiresAt)).foldl setSession [] := by
    simp only [loadSessions] at loaded
    split at loaded
    case isTrue => cases loaded
    case isFalse => exact (Option.some.inj loaded).symm
  obtain ⟨other, inside, same⟩ :=
    exists_foldl_setSession
      (show (∃ other ∈ file.sessions.filter (fun session => now < session.expiresAt),
            other.tokenHash = session.tokenHash)
          ∨ ∃ other ∈ ([] : SessionTable), other.tokenHash = session.tokenHash from
        .inl ⟨session, List.mem_filter.mpr ⟨member, by simpa using fresh⟩, rfl⟩)
  rw [← built] at inside
  have present : (findSession table session.tokenHash).isSome :=
    List.find?_isSome.mpr ⟨other, inside, by simpa using same⟩
  obtain ⟨found, here⟩ := Option.isSome_iff_exists.mp present
  refine ⟨found, here, ?_⟩
  obtain ⟨_, -, -, live⟩ := mem_loadSessions loaded (List.mem_of_find?_eq_some here)
  exact live

/-- The session that a call opens. -/
def openedSession (hashToken : JsString → JsString) (ttl : ℚ)
    : SessionRequest → Option PersistedSession
  | .create accountId token _ now =>
      some { tokenHash := hashToken token, accountId, expiresAt := now + ttl }
  | _ => none

/-- A call that opens no session leaves the table or deletes one hash. -/
theorem sessionEffect_cases (hashToken : JsString → JsString) (ttl : ℚ) (table : SessionTable)
    {request : SessionRequest} (opens : openedSession hashToken ttl request = none)
    : ((sessionEffect hashToken ttl table request).writes = []
        ∧ (sessionEffect hashToken ttl table request).memory = table)
      ∨ ∃ tokenHash,
          (sessionEffect hashToken ttl table request).writes = [deleteSession table tokenHash]
          ∧ (sessionEffect hashToken ttl table request).memory
            = deleteSession table tokenHash := by
  cases request with
  | create accountId token sweepNow now => cases opens
  | resolve token now =>
      cases token with
      | none => exact .inl ⟨rfl, rfl⟩
      | some token =>
          simp only [sessionEffect]
          split
          case isTrue => exact .inl ⟨rfl, rfl⟩
          case isFalse =>
            split
            case h_1 => exact .inl ⟨rfl, rfl⟩
            case h_2 session _ =>
              split
              case isTrue => exact .inr ⟨session.tokenHash, rfl, rfl⟩
              case isFalse => exact .inl ⟨rfl, rfl⟩
  | destroy token =>
      cases token with
      | none => exact .inl ⟨rfl, rfl⟩
      | some token =>
          simp only [sessionEffect]
          split
          case isTrue => exact .inr ⟨hashToken token, rfl, rfl⟩
          case isFalse => exact .inl ⟨rfl, rfl⟩

/-- The tables that a call goes through: those it writes and the one it leaves. -/
def Passes (hashToken : JsString → JsString) (ttl : ℚ) (table : SessionTable)
    (request : SessionRequest) (after : SessionTable)
    : Prop :=
  after ∈ (sessionEffect hashToken ttl table request).writes
  ∨ after = (sessionEffect hashToken ttl table request).memory

section

variable {hashToken : JsString → JsString} {ttl : ℚ} {table after : SessionTable}
  {request : SessionRequest} {session : PersistedSession}

/-- Every table of a call holds old sessions and the one that the call opens. -/
theorem Passes.mem (passes : Passes hashToken ttl table request after)
    (member : session ∈ after)
    : session ∈ table ∨ openedSession hashToken ttl request = some session := by
  cases opens : openedSession hashToken ttl request with
  | none =>
      rw [Passes] at passes
      rcases sessionEffect_cases hashToken ttl table opens with
        ⟨writes, memory⟩ | ⟨tokenHash, writes, memory⟩
      · simp only [writes, memory, List.not_mem_nil, false_or] at passes
        exact .inl (passes ▸ member)
      · simp only [writes, memory, List.mem_singleton, or_self] at passes
        subst passes
        exact .inl (mem_deleteSession.mp member).1
  | some opened =>
      cases request with
      | resolve token now => cases opens
      | destroy token => cases opens
      | create accountId token sweepNow now =>
          cases opens
          have swept {other : PersistedSession} (kept : other ∈ sweepSessions table sweepNow)
              : other ∈ table :=
            (List.mem_filter.mp kept).1
          have added {other : PersistedSession}
              (inside
                : other
                  ∈ setSession (sweepSessions table sweepNow)
                      { tokenHash := hashToken token, accountId, expiresAt := now + ttl })
              : other ∈ table
                ∨ some
                    {
                      tokenHash := hashToken token, accountId, expiresAt := now + ttl
                      : PersistedSession
                    }
                  = some other := by
            rcases mem_setSession inside with rfl | kept
            · exact .inr rfl
            · exact .inl (swept kept)
          simp only [Passes, sessionEffect, List.mem_append, List.mem_singleton] at passes
          rcases passes with (first | rfl) | rfl
          · split at first
            · rw [List.mem_singleton.mp first] at member
              exact .inl (swept member)
            · cases first
          · exact added member
          · exact added member

/-- A destroyed session is in no table of the call. -/
theorem Passes.destroyed {token : JsString}
    (passes : Passes hashToken ttl table (.destroy (some token)) after)
    (member : session ∈ after)
    : session.tokenHash ≠ hashToken token := by
  simp only [Passes, sessionEffect] at passes
  split at passes
  case isTrue =>
    simp only [List.mem_singleton, or_self] at passes
    subst passes
    exact (mem_deleteSession.mp member).2
  case isFalse absent =>
    simp only [List.not_mem_nil, false_or] at passes
    subst passes
    intro same
    exact absent (List.any_eq_true.mpr ⟨session, member, decide_eq_true same⟩)

/-- The answer of `resolve` is the account of a live session with the hash of the token. -/
theorem resolve_eq_account {token : JsString} {now : ℚ} {accountId : JsString}
    : (sessionEffect hashToken ttl table (.resolve (some token) now)).answer
        = .account (some accountId)
      ↔ token ≠ []
        ∧ ∃ session,
            findSession table (hashToken token) = some session
            ∧ now < session.expiresAt
            ∧ session.accountId = accountId := by
  simp only [sessionEffect]
  split
  case isTrue empty => simp [empty]
  case isFalse usable =>
    cases found : findSession table (hashToken token) with
    | none => simp
    | some session =>
        by_cases expired : session.expiresAt ≤ now
        · simp [expired]
        · simp [expired, usable, lt_of_not_ge expired]

end

-----------------------------------------------------------------------------------------
-- What the log says of a session
-----------------------------------------------------------------------------------------

abbrev SessionEntry := Entry SessionRequest SessionAnswer ℚ

abbrev SessionState :=
  Logbook SessionTable PersistedSessionsFile SessionRequest SessionAnswer ℚ

def createdToken : SessionRequest → Option JsString
  | .create _ token _ _ => some token
  | _ => none

/-- The tokens of all calls of `create`, whether or not they came to their end. -/
def createdTokens (log : List SessionEntry) : List JsString :=
  log.filterMap (fun entry => entry.request.bind createdToken)

/-- The token was made by `create` and given to `destroy` after that. -/
def Destroyed : List SessionEntry → JsString → Prop
  | [], _ => False
  | entry :: earlier, token =>
      entry.request = some (.destroy (some token)) ∧ token ∈ createdTokens earlier
      ∨ Destroyed earlier token

/-- A call of `create` opened the session. -/
def Issued (hashToken : JsString → JsString) (ttl : ℚ) (log : List SessionEntry)
    (session : PersistedSession)
    : Prop :=
  ∃ entry ∈ log,
    ∃ request,
      entry.request = some request ∧ openedSession hashToken ttl request = some session

section

variable {hashToken : JsString → JsString} {ttl : ℚ} {log : List SessionEntry}

theorem Destroyed.created {token : JsString} (destroyed : Destroyed log token)
    : token ∈ createdTokens log := by
  induction log with
  | nil => cases destroyed
  | cons entry earlier ih =>
      have inside : token ∈ createdTokens earlier := by
        rcases destroyed with ⟨-, created⟩ | before
        · exact created
        · exact ih before
      obtain ⟨other, member, created⟩ := List.mem_filterMap.mp inside
      exact List.mem_filterMap.mpr ⟨other, List.mem_cons_of_mem _ member, created⟩

theorem Issued.later {session : PersistedSession} (issued : Issued hashToken ttl log session)
    (entry : SessionEntry)
    : Issued hashToken ttl (entry :: log) session := by
  obtain ⟨other, member, opened⟩ := issued
  exact ⟨other, List.mem_cons_of_mem _ member, opened⟩

/-- The call that opens a session, from what it opened. -/
theorem openedSession_eq_some {request : SessionRequest} {session : PersistedSession}
    : openedSession hashToken ttl request = some session
      ↔ ∃ token sweepNow now,
          request = .create session.accountId token sweepNow now
          ∧ session.tokenHash = hashToken token
          ∧ session.expiresAt = now + ttl := by
  constructor
  · intro opened
    cases request with
    | resolve token now => cases opened
    | destroy token => cases opened
    | create accountId token sweepNow now =>
        cases opened
        exact ⟨token, sweepNow, now, rfl, rfl, rfl⟩
  · intro created
    obtain ⟨token, sweepNow, now, rfl, hashed, expires⟩ := created
    obtain ⟨tokenHash, accountId, expiresAt⟩ := session
    subst hashed
    subst expires
    rfl

-----------------------------------------------------------------------------------------
-- What a run keeps
-----------------------------------------------------------------------------------------

/-- Tokens are random: no two calls of `create` make the same one. -/
def DistinctTokens (log : List SessionEntry) : Prop := (createdTokens log).Nodup

/-- Every session was opened by `create`, and none in memory was destroyed. -/
structure SessionsTracked (hashToken : JsString → JsString) (ttl : ℚ) (state : SessionState)
    : Prop where
  memory
    : ∀ table,
        state.world.memory = some table
        → ∀ session ∈ table, Issued hashToken ttl state.log session
  file
    : ∀ file,
        state.world.disk.file = some (.whole file)
        → ∀ session ∈ file.sessions, Issued hashToken ttl state.log session
  kept
    : ∀ table,
        state.world.memory = some table
        → ∀ session ∈ table,
            ∀ token,
              token ≠ []
              → session.tokenHash = hashToken token
              → ¬ Destroyed state.log token

/-- A process starts with no live session that was destroyed. -/
def RestartsClean (hashToken : JsString → JsString) (state : SessionState)
    : StoreEvent SessionRequest ℚ → Prop
  | .restart now =>
      ∀ file,
        state.world.disk.file = some (.whole file)
        → ∀ session ∈ file.sessions,
            now < session.expiresAt
            → ∀ token,
                token ≠ []
                → session.tokenHash = hashToken token
                → ¬ Destroyed state.log token
  | _ => True

/-- Whatever call of `resolve` comes next, it names the account of a call of `create` for the
token, before the session expires, and of no token that was destroyed.
-/
def ResolvesSafely (hashToken : JsString → JsString) (ttl : ℚ) (state : SessionState) : Prop :=
  ∀ table token now accountId,
    state.world.memory = some table
    → (sessionEffect hashToken ttl table (.resolve (some token) now)).answer
      = .account (some accountId)
    → (∃ entry ∈ state.log,
          ∃ sweepNow created,
            entry.request = some (.create accountId token sweepNow created)
            ∧ now < created + ttl)
      ∧ ¬ Destroyed state.log token

variable {state after : SessionState} {table next : SessionTable} {request : SessionRequest}
  {entry : SessionEntry} {session : PersistedSession}

/-- The sessions of a call were opened before or by the call. -/
theorem SessionsTracked.issued (tracked : SessionsTracked hashToken ttl state)
    (live : state.world.memory = some table) (passes : Passes hashToken ttl table request next)
    (asked : entry.request = some request) (member : session ∈ next)
    : Issued hashToken ttl (entry :: state.log) session := by
  rcases passes.mem member with old | opened
  · exact (tracked.memory table live session old).later entry
  · exact ⟨entry, List.mem_cons_self, request, asked, opened⟩

/-- The sessions of a call were not destroyed, since tokens are distinct. -/
theorem SessionsTracked.not_destroyed (injective : Function.Injective hashToken)
    (tracked : SessionsTracked hashToken ttl state)
    (distinct : DistinctTokens (entry :: state.log)) (live : state.world.memory = some table)
    (passes : Passes hashToken ttl table request next) (asked : entry.request = some request)
    (member : session ∈ next) {token : JsString} (usable : token ≠ [])
    (hashed : session.tokenHash = hashToken token)
    : ¬ Destroyed (entry :: state.log) token := by
  intro destroyed
  rcases destroyed with ⟨here, -⟩ | before
  · obtain rfl := Option.some.inj (asked.symm.trans here)
    exact passes.destroyed member hashed
  · rcases passes.mem member with old | opened
    · exact tracked.kept table live session old token usable hashed before
    · obtain ⟨other, sweepNow, now, rfl, same, -⟩ := openedSession_eq_some.mp opened
      obtain rfl := injective (hashed.symm.trans same)
      have tokens : createdTokens (entry :: state.log) = token :: createdTokens state.log := by
        simp [createdTokens, asked, createdToken]
      rw [DistinctTokens, tokens, List.nodup_cons] at distinct
      exact distinct.1 before.created

theorem DistinctTokens.of_cons (distinct : DistinctTokens (entry :: log)) : DistinctTokens log := by
  have sublist : (createdTokens log).Sublist (createdTokens (entry :: log)) :=
    (List.sublist_cons_self entry log).filterMap _
  exact distinct.sublist sublist

theorem sessionsTracked_off (temp : Option (Image PersistedSessionsFile))
    : SessionsTracked hashToken ttl (Logbook.off { file := none, temp }) where
  memory _ live := by cases live
  file _ found := by cases found
  kept _ live := by cases live

/-- The file after some writes of a call holds what it held or a table of the call. -/
theorem SessionsTracked.file_written (tracked : SessionsTracked hashToken ttl state)
    {done rest : List SessionTable} (live : state.world.memory = some table)
    (split : (sessionEffect hashToken ttl table request).writes = done ++ rest)
    (asked : entry.request = some request) {file : PersistedSessionsFile}
    (found
      : (portalSessions hashToken ttl).written state.world.disk.file done = some (.whole file))
    (member : session ∈ file.sessions)
    : Issued hashToken ttl (entry :: state.log) session := by
  rcases (portalSessions hashToken ttl).written_cases state.world.disk.file done with
    same | ⟨written, inside, same⟩
  · rw [same] at found
    exact (tracked.file file found session member).later entry
  · rw [same] at found
    cases found
    have passes : Passes hashToken ttl table request written :=
      .inl (split ▸ List.mem_append_left _ inside)
    exact tracked.issued live passes asked member

/-- A call leaves a table it passed through, and the file as some of its writes left it. -/
theorem SessionsTracked.called (injective : Function.Injective hashToken)
    (tracked : SessionsTracked hashToken ttl state) (distinct : DistinctTokens after.log)
    {done rest : List SessionTable} (live : state.world.memory = some table)
    (log : after.log = entry :: state.log) (asked : entry.request = some request)
    (memory : after.world.memory = some next) (passes : Passes hashToken ttl table request next)
    (split : (sessionEffect hashToken ttl table request).writes = done ++ rest)
    (file
      : after.world.disk.file
        = (portalSessions hashToken ttl).written state.world.disk.file done)
    : SessionsTracked hashToken ttl after where
  memory current found session member := by
    cases memory.symm.trans found
    rw [log]
    exact tracked.issued live passes asked member
  file current found session member := by
    rw [file] at found
    rw [log]
    exact tracked.file_written live split asked found member
  kept current found session member token usable hashed := by
    cases memory.symm.trans found
    rw [log] at distinct ⊢
    exact tracked.not_destroyed injective distinct live passes asked member usable hashed

/-- One event keeps track of the sessions, if processes start with none that was destroyed. -/
theorem SessionsTracked.step (injective : Function.Injective hashToken)
    {event : StoreEvent SessionRequest ℚ} (tracked : SessionsTracked hashToken ttl state)
    (distinct : DistinctTokens after.log) (clean : RestartsClean hashToken state event)
    (stepped : (portalSessions hashToken ttl).machine.step state event = some after)
    : SessionsTracked hashToken ttl after := by
  cases event with
  | call request outcomes =>
      obtain
        ⟨table, live, ⟨log, memory, file⟩ | ⟨done, unwritten, rest, split, log, memory, file⟩⟩ :=
        Store.call_cases stepped
      · exact tracked.called injective distinct live log rfl memory (.inr rfl)
          (List.append_nil _).symm file
      · refine tracked.called injective distinct live log rfl memory (.inl ?_) split file
        exact split ▸ List.mem_append_right _ List.mem_cons_self
  | crash during =>
      obtain ⟨stopped, log, ends⟩ := Store.crash_cases stepped
      refine { memory := ?_, file := ?_, kept := ?_ }
      · intro current found
        cases stopped.symm.trans found
      · intro current found session member
        rw [log]
        rcases ends with ⟨-, file⟩ | ⟨request, outcomes, table, done, rest, rfl, live, split, file⟩
        · rw [file] at found
          exact (tracked.file current found session member).later _
        · rw [file] at found
          exact tracked.file_written live split rfl found member
      · intro current found
        cases stopped.symm.trans found
  | restart now =>
      obtain ⟨disk, log, table, loaded, live⟩ := Store.started_cases stepped
      refine { memory := ?_, file := ?_, kept := ?_ }
      · intro current found session member
        cases live.symm.trans found
        obtain ⟨file, holds, inside, -⟩ := mem_loadSessions loaded member
        rw [log]
        exact (tracked.file file holds session inside).later _
      · intro current found session member
        rw [disk] at found
        rw [log]
        exact (tracked.file current found session member).later _
      · intro current found session member token usable hashed destroyed
        cases live.symm.trans found
        obtain ⟨file, holds, inside, fresh⟩ := mem_loadSessions loaded member
        rw [log] at destroyed
        rcases destroyed with ⟨started, -⟩ | before
        · cases started
        · exact clean file holds session inside fresh token usable hashed before

/-- What a run keeps as long as its tokens are distinct. -/
def TracksIfDistinct (hashToken : JsString → JsString) (ttl : ℚ) (state : SessionState) : Prop :=
  DistinctTokens state.log → SessionsTracked hashToken ttl state

theorem TracksIfDistinct.step (injective : Function.Injective hashToken)
    {event : StoreEvent SessionRequest ℚ} (tracked : TracksIfDistinct hashToken ttl state)
    (clean : RestartsClean hashToken state event)
    (stepped : (portalSessions hashToken ttl).machine.step state event = some after)
    : TracksIfDistinct hashToken ttl after := by
  intro distinct
  obtain ⟨entry, log⟩ := Store.log_step stepped
  have before : DistinctTokens state.log := by
    rw [log] at distinct
    exact distinct.of_cons
  exact (tracked before).step injective distinct clean stepped

/-- Tokens that are distinct at the end of a run are distinct before. -/
theorem DistinctTokens.of_run {inputs : List (StoreEvent SessionRequest ℚ)}
    (distinct
      : DistinctTokens ((portalSessions hashToken ttl).machine.run state inputs).log)
    : DistinctTokens state.log := by
  obtain ⟨entries, log⟩ :=
    @Store.log_run _ _ _ _ _ (portalSessions hashToken ttl) state inputs
  rw [log] at distinct
  have sublist : (createdTokens state.log).Sublist (createdTokens (entries ++ state.log)) :=
    (List.sublist_append_right entries state.log).filterMap _
  exact distinct.sublist sublist

/-- A process that tracks its sessions resolves them safely. -/
theorem SessionsTracked.resolvesSafely (injective : Function.Injective hashToken)
    (tracked : SessionsTracked hashToken ttl state)
    : ResolvesSafely hashToken ttl state := by
  intro table token now accountId live answered
  obtain ⟨usable, session, found, fresh, rfl⟩ := resolve_eq_account.mp answered
  have member := List.mem_of_find?_eq_some found
  have hashed : session.tokenHash = hashToken token := by simpa using List.find?_some found
  refine ⟨?_, tracked.kept table live session member token usable hashed⟩
  obtain ⟨entry, logged, request, asked, opened⟩ := tracked.memory table live session member
  obtain ⟨other, sweepNow, created, rfl, same, expires⟩ := openedSession_eq_some.mp opened
  obtain rfl := injective (hashed.symm.trans same)
  exact ⟨entry, logged, sweepNow, created, asked, expires ▸ fresh⟩

/-- A process that starts with a destroyed session resolves its token. -/
theorem not_resolvesSafely_of_restart {now : ℚ}
    (stepped : (portalSessions hashToken ttl).machine.step state (.restart now) = some after)
    (unclean : ¬ RestartsClean hashToken state (.restart now))
    : ¬ ResolvesSafely hashToken ttl after := by
  simp only [RestartsClean, not_forall, not_not] at unclean
  obtain ⟨file, holds, session, member, fresh, token, usable, hashed, destroyed⟩ := unclean
  obtain ⟨-, log, table, loaded, live⟩ := Store.started_cases stepped
  rw [holds] at loaded
  obtain ⟨found, here, foundFresh⟩ := findSession_loaded loaded member fresh
  rw [hashed] at here
  intro safe
  have answered
      : (sessionEffect hashToken ttl table (.resolve (some token) now)).answer
        = .account (some found.accountId) :=
    resolve_eq_account.mpr ⟨usable, found, here, foundFresh, rfl⟩
  apply (safe table token now found.accountId live answered).2
  rw [log]
  exact .inr destroyed

/-- Throughout a run, sessions resolve safely exactly if no process starts with a live session
whose token was destroyed.
-/
theorem sessions_safe_iff (injective : Function.Injective hashToken) (ttl : ℚ)
    (temp : Option (Image PersistedSessionsFile)) {inputs : List (StoreEvent SessionRequest ℚ)}
    (distinct
      : DistinctTokens
          ((portalSessions hashToken ttl).machine.run (Logbook.off { file := none, temp })
            inputs).log)
    : (∀ before after,
          inputs = before ++ after
          → ResolvesSafely hashToken ttl
              ((portalSessions hashToken ttl).machine.run
                (Logbook.off { file := none, temp }) before))
      ↔ ∀ state event,
          (state, event)
            ∈ (portalSessions hashToken ttl).machine.trace
                (Logbook.off { file := none, temp }) inputs
          → RestartsClean hashToken state event := by
  constructor
  · intro safe state event member
    obtain ⟨before, after, rfl, rfl, later, stepped⟩ := Machine.mem_trace member
    cases event with
    | call request outcomes => trivial
    | crash during => trivial
    | restart now =>
        by_contra unclean
        apply not_resolvesSafely_of_restart stepped unclean
        rw [← Machine.next_of_step stepped]
        have reached := safe (before ++ [.restart now]) after (by simp)
        rwa [Machine.run_append] at reached
  · intro clean before after split
    subst split
    rw [Machine.run_append] at distinct
    have tracked
        : TracksIfDistinct hashToken ttl
            ((portalSessions hashToken ttl).machine.run (Logbook.off { file := none, temp })
              before) :=
      Machine.run_of_trace
        (fun given event later member stepped tracked =>
          tracked.step injective (clean given event (Machine.mem_trace_append member after))
            stepped)
        (fun _ => sessionsTracked_off temp)
    exact (tracked distinct.of_run).resolvesSafely injective

end

/-- A session is opened and destroyed, with the outcome of the write, and the process stops. -/
def destroyedOnce (reached : Reached) : List (StoreEvent SessionRequest ℚ) :=
  [
    .restart 0,
    .call (.create (js "account") (js "token") 0 0) [.renamed],
    .call (.destroy (some (js "token"))) [reached],
    .crash none
  ]

theorem distinctTokens_destroyedOnce (reached : Reached)
    : DistinctTokens
        ((portalSessions id 86400).machine.run
          (Logbook.off { file := none, temp := none })
          (destroyedOnce reached ++ [.restart 1])).log := by
  cases reached <;> exact List.pairwise_singleton _ (js "token")

/-- A session that is destroyed in the file too stays away. -/
theorem sessions_safe_after_destroy
    : ResolvesSafely id 86400
        ((portalSessions id 86400).machine.run
          (Logbook.off { file := none, temp := none })
          (destroyedOnce .renamed ++ [.restart 1])) := by
  refine
    (sessions_safe_iff Function.injective_id 86400 none
      (distinctTokens_destroyedOnce .renamed)).mpr ?_ _ [] (List.append_nil _).symm
  intro state event member
  obtain ⟨before, after, split, rfl, -⟩ := Machine.mem_trace member
  rcases before with
    _ | ⟨first, _ | ⟨second, _ | ⟨third, _ | ⟨fourth, _ | ⟨fifth, before⟩⟩⟩⟩⟩
  · cases split
    intro file found
    cases found
  · cases split
    trivial
  · cases split
    trivial
  · cases split
    trivial
  · cases split
    intro file found session member
    cases found
    cases member
  · simp [destroyedOnce] at split

/-- The file could not be written without the session, and it is back after a restart. -/
theorem destroyed_session_is_back
    : ¬ ∀ inputs,
        DistinctTokens
            ((portalSessions id 86400).machine.run
              (Logbook.off { file := none, temp := none }) inputs).log
        → ResolvesSafely id 86400
            ((portalSessions id 86400).machine.run
              (Logbook.off { file := none, temp := none }) inputs) := by
  intro always
  have safe := always _ (distinctTokens_destroyedOnce .nothing)
  have stepped
      : (portalSessions id 86400).machine.step
          ((portalSessions id 86400).machine.run
            (Logbook.off { file := none, temp := none }) (destroyedOnce .nothing))
          (.restart 1)
        = some
            ((portalSessions id 86400).machine.run
              (Logbook.off { file := none, temp := none })
              (destroyedOnce .nothing ++ [.restart 1])) :=
    rfl
  refine not_resolvesSafely_of_restart stepped ?_ safe
  intro clean
  refine
    clean _ rfl
      { tokenHash := js "token", accountId := js "account", expiresAt := 0 + 86400 }
      List.mem_cons_self (by norm_num) (js "token") (by decide) rfl ?_
  exact .inr (.inl ⟨rfl, List.mem_cons_self⟩)

end StellarOnramp.Onboard
