import StellarOnramp.Gateway.ResolverRuns

/-! Invalidation of the copies of a resolver. The events of a run are numbered, and each copy
and each answer remembers when its fetch began; the resolver itself remembers neither.
-/

namespace StellarOnramp.Gateway

open Attempts JsText Octets
open StellarOnramp.Identity
open Transitions
open Doubles (rounded)

-----------------------------------------------------------------------------------------
-- Numbered events
-----------------------------------------------------------------------------------------

/-- A resolver with the history of its run. -/
structure DatedState where
  resolver : ResolverState
  /-- How many events there were so far. -/
  clock : Nat
  /-- When `invalidate` was called. -/
  cleared : List Nat
  /-- When each call started. -/
  began : Nat → Nat
  /-- When the fetch of the copy at each URL began. -/
  copied : JsString → Nat
  /-- When the fetch of the document that each call yields began. -/
  read : Nat → Nat

def DatedState.fresh : DatedState :=
  {
    resolver := ResolverState.fresh
    clock := 0
    cleared := []
    began := fun _ => 0
    copied := fun _ => 0
    read := fun _ => 0
  }

/-- A call begins now, and so does its fetch unless a copy settles it. -/
def DatedState.resolved (state : DatedState) (after : ResolverState) (id : Nat) : DatedState :=
  {
    resolver := after
    clock := state.clock + 1
    cleared := state.cleared
    began := Function.update state.began id state.clock
    copied := state.copied
    read :=
      Function.update state.read id
        (match (after.calls id).map ResolveCall.stage with
        | some (.settled (some pinned) _) => state.copied pinned.url
        | _ => state.clock)
  }

/-- A call ends with its fetch, and its document becomes the copy if it was accepted. -/
def DatedState.finished (state : DatedState) (after : ResolverState) (id : Nat) : DatedState :=
  {
    resolver := after
    clock := state.clock + 1
    cleared := state.cleared
    began := state.began
    copied :=
      match (after.calls id).map ResolveCall.stage with
      | some (.settled (some pinned) (.ok _)) =>
          Function.update state.copied pinned.url (state.began id)
      | _ => state.copied
    read := state.read
  }

def DatedState.invalidated (state : DatedState) (after : ResolverState) : DatedState :=
  { state with
    resolver := after
    clock := state.clock + 1
    cleared := state.clock :: state.cleared
  }

/-- The history after an event that the resolver took. -/
def DatedState.record (state : DatedState) (after : ResolverState)
    : ResolverEvent → DatedState
  | .resolve id _ _ => state.resolved after id
  | .fetched id _ => state.finished after id
  | .invalidate => state.invalidated after

@[simp]
theorem DatedState.record_resolver (state : DatedState) (after : ResolverState)
    (event : ResolverEvent)
    : (state.record after event).resolver = after := by
  cases event <;> rfl

/-- The runs of a resolver with their history. -/
def datedMachine (libraries : StatusLibraries) (resolver : HardenedStatusListResolver)
    : Machine DatedState ResolverEvent where
  step state event :=
    ((resolverMachine libraries resolver).step state.resolver event).map
      (fun after => state.record after event)

/-- The history does not change what the resolver does. -/
def datedMachine_simulates (libraries : StatusLibraries)
    (resolver : HardenedStatusListResolver)
    : (datedMachine libraries resolver).Simulates (resolverMachine libraries resolver) where
  image := DatedState.resolver
  translate _ event := [event]
  commutes state event := by
    simp only [Machine.run_cons, Machine.run_nil, Machine.next, datedMachine]
    cases (resolverMachine libraries resolver).step state.resolver event with
    | none => rfl
    | some after => exact state.record_resolver after event

/-- The resolver in a run with its history is the resolver in the run. -/
theorem datedMachine_run (libraries : StatusLibraries) (resolver : HardenedStatusListResolver)
    (state : DatedState) (events : List ResolverEvent)
    : ((datedMachine libraries resolver).run state events).resolver
      = (resolverMachine libraries resolver).run state.resolver events := by
  have translated
      : (datedMachine_simulates libraries resolver).translateRun state events = events := by
    induction events generalizing state with
    | nil => rfl
    | cons event events ih => exact congrArg (event :: ·) (ih _)
  have image := (datedMachine_simulates libraries resolver).image_run state events
  rw [translated] at image
  exact image

/-- No call that started after an invalidation yields a document whose fetch began before. -/
def InvalidationEffective (state : DatedState) : Prop :=
  ∀ id request settledFor entry,
    state.resolver.calls id = some { request, stage := .settled settledFor (.ok entry) }
    → ∀ invalidation ∈ state.cleared,
        invalidation < state.began id
        → ¬ state.read id < invalidation

/-- A fetch that is about to be accepted began after every invalidation. -/
def FetchedSince (libraries : StatusLibraries) (resolver : HardenedStatusListResolver)
    (state : DatedState)
    : ResolverEvent → Prop
  | .fetched id outcomes =>
      ∀ request pinned now entry,
        state.resolver.calls id = some { request, stage := .fetching pinned now }
        → fetchAndVerify libraries resolver pinned now outcomes = some (.ok entry)
        → Usable resolver entry now request.statusPurpose
        → ∀ invalidation ∈ state.cleared, invalidation < state.began id
  | _ => True

-----------------------------------------------------------------------------------------
-- What one event does
-----------------------------------------------------------------------------------------

section

variable {libraries : StatusLibraries} {resolver : HardenedStatusListResolver}

/-- The ways in which a call starts. -/
theorem startResolve_cases (libraries : StatusLibraries) (resolver : HardenedStatusListResolver)
    (cache : JsString → Option CacheEntry) (request : ResolveRequest) (now : ℚ)
    : (∃ failure,
          startResolve libraries resolver cache request now = .settled none (.error failure))
      ∨ ∃ pinned,
          pinnedFor resolver request = .ok pinned
          ∧ (((∀ cached,
                  cache pinned.url = some cached
                  → resolver.cacheTtl ≤ rounded (now - cached.fetchedAtSeconds))
              ∧ startResolve libraries resolver cache request now = .fetching pinned now)
            ∨ ∃ cached,
                cache pinned.url = some cached
                ∧ rounded (now - cached.fetchedAtSeconds) < resolver.cacheTtl
                ∧ startResolve libraries resolver cache request now
                  = .settled (some pinned)
                      (assertUsable libraries resolver cached now pinned
                        request.statusPurpose)) := by
  unfold startResolve
  cases found : pinnedFor resolver request with
  | error failure => exact .inl ⟨failure, rfl⟩
  | ok pinned =>
      refine .inr ⟨pinned, rfl, ?_⟩
      cases copy : cache pinned.url with
      | none => exact .inl ⟨fun _ other => (by cases other), by simp only [copy]⟩
      | some cached =>
          by_cases live : rounded (now - cached.fetchedAtSeconds) < resolver.cacheTtl
          · exact .inr ⟨cached, rfl, live, by simp only [copy, if_pos live]⟩
          · refine .inl ⟨fun other here => ?_, by simp only [copy, if_neg live]⟩
            cases here
            exact not_lt.mp live

/-- A call ends with its fetch: its document is accepted and becomes the copy, or the call
fails and the copies stay.
-/
theorem fetched_cases {state after : ResolverState} {id : Nat} {outcomes : List HttpOutcome}
    (stepped : (resolverMachine libraries resolver).step state (.fetched id outcomes) = some after)
    : ∃ request pinned now,
        state.calls id = some { request, stage := .fetching pinned now }
        ∧ ((∃ entry,
              fetchAndVerify libraries resolver pinned now outcomes = some (.ok entry)
              ∧ Usable resolver entry now request.statusPurpose
              ∧ after
                = {
                    cache := Function.update state.cache pinned.url (some entry)
                    calls :=
                      Function.update state.calls id
                        (some { request, stage := .settled (some pinned) (.ok entry) })
                  })
          ∨ ∃ failure,
              after
              = {
                  cache := state.cache
                  calls :=
                    Function.update state.calls id
                      (some { request, stage := .settled (some pinned) (.error failure) })
                }) := by
  simp only [resolverMachine] at stepped
  split at stepped
  case h_2 => cases stepped
  case h_1 request pinned now found =>
    obtain ⟨fetched, answered, rfl⟩ := Option.map_eq_some_iff.mp stepped
    refine ⟨request, pinned, now, found, ?_⟩
    cases outcome
      : fetched >>= fun entry =>
          assertUsable libraries resolver entry now pinned request.statusPurpose with
    | error failure => exact .inr ⟨failure, rfl⟩
    | ok entry =>
        obtain ⟨other, rfl, checked⟩ := bind_eq_ok.mp outcome
        obtain ⟨usable, rfl⟩ := assertUsable_eq_ok.mp checked
        exact .inl ⟨entry, answered, usable, rfl⟩

-----------------------------------------------------------------------------------------
-- The history is consistent
-----------------------------------------------------------------------------------------

/-- A call began at an event that has passed and was no invalidation; a call that waits for
its fetch reads what that fetch brings.
-/
structure CallDated (resolver : HardenedStatusListResolver) (state : DatedState) (id : Nat)
    (call : ResolveCall)
    : Prop where
  past : state.began id < state.clock
  apart : state.began id ∉ state.cleared
  waiting
    : ∀ pinned now,
        call.stage = .fetching pinned now
        → pinnedFor resolver call.request = .ok pinned ∧ state.read id = state.began id

/-- Invalidations and calls have their numbers, and only finitely many calls were made. -/
structure Dated (resolver : HardenedStatusListResolver) (state : DatedState) : Prop where
  cleared : ∀ invalidation ∈ state.cleared, invalidation < state.clock
  calls
    : ∀ id call, state.resolver.calls id = some call → CallDated resolver state id call
  bounded : ∃ bound, ∀ id, bound ≤ id → state.resolver.calls id = none

theorem dated_fresh : Dated resolver DatedState.fresh where
  cleared _ member := by cases member
  calls _ _ found := by cases found
  bounded := ⟨0, fun _ _ => rfl⟩

/-- Another entry in the table of calls is still a finite table. -/
theorem bounded_update {calls : Nat → Option ResolveCall} (id : Nat) (call : ResolveCall)
    (bounded : ∃ bound, ∀ other, bound ≤ other → calls other = none)
    : ∃ bound, ∀ other,
        bound ≤ other → Function.update calls id (some call) other = none := by
  obtain ⟨bound, free⟩ := bounded
  refine ⟨max bound (id + 1), fun other above => ?_⟩
  rw [Function.update_of_ne (by omega)]
  exact free other (by omega)

/-- A dated call stays dated while nothing happens to it. -/
theorem CallDated.keep {state after : DatedState} {id : Nat} {call : ResolveCall}
    (dated : CallDated resolver state id call) (later : state.clock ≤ after.clock)
    (sameBegan : after.began id = state.began id) (sameRead : after.read id = state.read id)
    (apart : state.began id ∉ after.cleared)
    : CallDated resolver after id call where
  past := by
    rw [sameBegan]
    exact dated.past.trans_le later
  apart := by rwa [sameBegan]
  waiting := by
    rw [sameBegan, sameRead]
    exact dated.waiting

theorem Dated.invalidated {state : DatedState} (dated : Dated resolver state)
    : Dated resolver
        (state.invalidated { state.resolver with cache := fun _ => none }) where
  cleared invalidation member := by
    rcases List.mem_cons.mp member with rfl | member
    · exact Nat.lt_succ_self _
    · exact (dated.cleared invalidation member).trans (Nat.lt_succ_self _)
  calls id call found := by
    have known := dated.calls id call found
    refine known.keep (Nat.le_succ _) rfl rfl ?_
    exact List.not_mem_cons_of_ne_of_not_mem known.past.ne known.apart
  bounded := dated.bounded

/-- A call that starts is dated now. -/
theorem callDated_resolved {state : DatedState} (dated : Dated resolver state) (id : Nat)
    (request : ResolveRequest) (now : ℚ)
    : CallDated resolver
        (state.resolved
          { state.resolver with
            calls :=
              Function.update state.resolver.calls id
                (some
                  {
                    request
                    stage := startResolve libraries resolver state.resolver.cache request now
                  })
          }
          id)
        id
        {
          request
          stage := startResolve libraries resolver state.resolver.cache request now
        } where
  past := by simp [DatedState.resolved]
  apart := by
    simp only [DatedState.resolved, Function.update_self]
    exact fun member => absurd (dated.cleared _ member) (Nat.lt_irrefl _)
  waiting := by
    intro pinned time waits
    rcases startResolve_cases libraries resolver state.resolver.cache request now with
      ⟨failure, settled⟩ | ⟨known, found, ⟨-, fetching⟩ | ⟨cached, copy, -, settled⟩⟩
    · cases settled.symm.trans waits
    · cases fetching.symm.trans waits
      simp [DatedState.resolved, found, fetching]
    · cases settled.symm.trans waits

/-- A call that ends keeps its dates. -/
theorem Dated.finished {state : DatedState} {reached : ResolverState} {id : Nat}
    {request : ResolveRequest} {pinned : PinnedStatusListIssuer} {now : ℚ}
    {settled : ResolveStage} (dated : Dated resolver state)
    (found : state.resolver.calls id = some { request, stage := .fetching pinned now })
    (ends : ∀ pinned now, settled ≠ .fetching pinned now)
    (calls
      : reached.calls
        = Function.update state.resolver.calls id (some { request, stage := settled }))
    : Dated resolver (state.finished reached id) where
  cleared invalidation member :=
    (dated.cleared invalidation member).trans (Nat.lt_succ_self _)
  calls other call known := by
    have known : reached.calls other = some call := known
    rw [calls] at known
    by_cases same : other = id
    · subst same
      rw [Function.update_self] at known
      cases known
      have waited := dated.calls other _ found
      exact {
        past := waited.past.trans (Nat.lt_succ_self _)
        apart := waited.apart
        waiting := fun pinned now waits => absurd waits (ends pinned now)
      }
    · rw [Function.update_of_ne same] at known
      have dated := dated.calls other call known
      exact dated.keep (Nat.le_succ _) rfl rfl dated.apart
  bounded := by
    have bounded := bounded_update id { request, stage := settled } dated.bounded
    rwa [← calls] at bounded

/-- One event keeps the history consistent. -/
theorem Dated.step {state after : DatedState} {event : ResolverEvent}
    (dated : Dated resolver state)
    (stepped : (datedMachine libraries resolver).step state event = some after)
    : Dated resolver after := by
  obtain ⟨reached, taken, rfl⟩ := Option.map_eq_some_iff.mp stepped
  cases event with
  | invalidate =>
      cases taken
      exact dated.invalidated
  | resolve id request now =>
      simp only [resolverMachine] at taken
      split at taken
      case h_1 => cases taken
      case h_2 free =>
        cases taken
        refine {
          cleared := fun invalidation member =>
            (dated.cleared invalidation member).trans (Nat.lt_succ_self _)
          calls := ?_
          bounded := bounded_update id _ dated.bounded
        }
        intro other call found
        by_cases same : other = id
        · subst same
          cases (Function.update_self other _ state.resolver.calls).symm.trans found
          exact callDated_resolved dated other request now
        · have known :=
            dated.calls other call ((Function.update_of_ne same _ _).symm.trans found)
          exact known.keep (Nat.le_succ _) (Function.update_of_ne same _ _)
            (Function.update_of_ne same _ _) known.apart
  | fetched id outcomes =>
      obtain ⟨request, pinned, now, found, ⟨entry, -, -, rfl⟩ | ⟨failure, rfl⟩⟩ :=
        fetched_cases taken
      · exact dated.finished found (fun _ _ same => by cases same) rfl
      · exact dated.finished found (fun _ _ same => by cases same) rfl

-----------------------------------------------------------------------------------------
-- Copies from after the invalidations
-----------------------------------------------------------------------------------------

/-- Every copy was fetched since the last invalidation, and so was what every later call
yields.
-/
structure Current (resolver : HardenedStatusListResolver) (state : DatedState) : Prop where
  dated : Dated resolver state
  copies
    : ∀ url entry,
        state.resolver.cache url = some entry
        → ∀ invalidation ∈ state.cleared, invalidation < state.copied url
  answers : InvalidationEffective state

theorem current_fresh : Current resolver DatedState.fresh where
  dated := dated_fresh
  copies _ _ found := by cases found
  answers _ _ _ _ found := by cases found

theorem Current.answers_invalidated {state : DatedState} (current : Current resolver state)
    : InvalidationEffective
        (state.invalidated { state.resolver with cache := fun _ => none }) := by
  intro id request settledFor entry found invalidation member later
  rcases List.mem_cons.mp member with rfl | member
  · exact absurd later (current.dated.calls id _ found).past.asymm
  · exact current.answers id request settledFor entry found invalidation member later

/-- A call that a copy settles reads a fetch from after the invalidations. -/
theorem Current.answers_resolved {state : DatedState} (current : Current resolver state)
    (id : Nat) (request : ResolveRequest) (now : ℚ)
    : InvalidationEffective
        (state.resolved
          { state.resolver with
            calls :=
              Function.update state.resolver.calls id
                (some
                  {
                    request
                    stage := startResolve libraries resolver state.resolver.cache request now
                  })
          }
          id) := by
  intro other otherRequest settledFor entry found invalidation member later
  by_cases same : other = id
  · subst same
    have started := (Function.update_self other _ state.resolver.calls).symm.trans found
    obtain ⟨rfl, stage⟩ := ResolveCall.mk.inj (Option.some.inj started)
    rcases startResolve_cases libraries resolver state.resolver.cache request now with
      ⟨failure, settled⟩ | ⟨pinned, known, ⟨-, fetching⟩ | ⟨cached, copy, -, settled⟩⟩
    · cases settled.symm.trans stage
    · cases fetching.symm.trans stage
    · have since := current.copies pinned.url cached copy invalidation member
      simpa [DatedState.resolved, settled] using since.le
  · have found := (Function.update_of_ne same _ state.resolver.calls).symm.trans found
    simp only [DatedState.resolved, Function.update_of_ne same] at later ⊢
    exact current.answers other otherRequest settledFor entry found invalidation member later

/-- A call that ends reads its own fetch. -/
theorem Current.answers_finished {state : DatedState} {reached : ResolverState} {id : Nat}
    {request : ResolveRequest} {pinned : PinnedStatusListIssuer} {now : ℚ}
    {settled : ResolveStage} (current : Current resolver state)
    (found : state.resolver.calls id = some { request, stage := .fetching pinned now })
    (calls
      : reached.calls
        = Function.update state.resolver.calls id (some { request, stage := settled }))
    : InvalidationEffective (state.finished reached id) := by
  intro other otherRequest settledFor entry known invalidation member later
  have known
      : reached.calls other
        = some { request := otherRequest, stage := .settled settledFor (.ok entry) } :=
    known
  rw [calls] at known
  by_cases same : other = id
  · subst same
    have own := ((current.dated.calls other _ found).waiting pinned now rfl).2
    change ¬ state.read other < invalidation
    rw [own]
    exact later.asymm
  · rw [Function.update_of_ne same] at known
    exact current.answers other otherRequest settledFor entry known invalidation member later

/-- One event keeps copies and answers current, if no fetch from before an invalidation is
accepted.
-/
theorem Current.step {state after : DatedState} {event : ResolverEvent}
    (current : Current resolver state) (since : FetchedSince libraries resolver state event)
    (stepped : (datedMachine libraries resolver).step state event = some after)
    : Current resolver after := by
  have dated := current.dated.step stepped
  obtain ⟨reached, taken, rfl⟩ := Option.map_eq_some_iff.mp stepped
  cases event with
  | invalidate =>
      cases taken
      refine { dated, copies := ?_, answers := current.answers_invalidated }
      intro _ _ found
      cases found
  | resolve id request now =>
      simp only [resolverMachine] at taken
      split at taken
      case h_1 => cases taken
      case h_2 =>
        cases taken
        exact {
          dated
          copies := current.copies
          answers := current.answers_resolved id request now
        }
  | fetched id outcomes =>
      obtain ⟨request, pinned, now, found, ⟨entry, answered, usable, rfl⟩ | ⟨failure, rfl⟩⟩ :=
        fetched_cases taken
      · refine { dated, copies := ?_, answers := current.answers_finished found rfl }
        intro url copy cached invalidation member
        have began := since request pinned now entry found answered usable invalidation member
        simp only [DatedState.record, DatedState.finished, Function.update_self, Option.map_some]
        by_cases same : url = pinned.url
        · subst same
          rwa [Function.update_self]
        · rw [Function.update_of_ne same]
          refine current.copies url copy ?_ invalidation member
          exact (Function.update_of_ne same _ _).symm.trans cached
      · refine { dated, copies := ?_, answers := current.answers_finished found rfl }
        intro url copy cached invalidation member
        simp only [DatedState.record, DatedState.finished, Function.update_self, Option.map_some]
        exact current.copies url copy cached invalidation member

-----------------------------------------------------------------------------------------
-- Fetches from before an invalidation
-----------------------------------------------------------------------------------------

/-- What a fetch brings is served at once to the next call with the same request, if copies
are kept at all.
-/
theorem startResolve_fetched {cache : JsString → Option CacheEntry} {request : ResolveRequest}
    {pinned : PinnedStatusListIssuer} {now : ℚ} {outcomes : List HttpOutcome}
    {entry : CacheEntry} (positive : 0 < resolver.cacheTtl)
    (found : pinnedFor resolver request = .ok pinned)
    (answered : fetchAndVerify libraries resolver pinned now outcomes = some (.ok entry))
    (usable : Usable resolver entry now request.statusPurpose)
    (copy : cache pinned.url = some entry)
    : startResolve libraries resolver cache request now = .settled (some pinned) (.ok entry) := by
  obtain ⟨response, -, fetched⟩ := fetchAndVerify_eq_ok answered
  have live : rounded (now - entry.fetchedAtSeconds) < resolver.cacheTtl := by
    rwa [fetched.fetchedAt, sub_self, Doubles.rounded_zero]
  simp only [startResolve, found, copy, if_pos live]
  rw [assertUsable_eq_ok.mpr ⟨usable, rfl⟩]

/-- The table of calls and the copies after an accepted fetch. -/
def ResolverState.accepted (state : ResolverState) (id : Nat) (request : ResolveRequest)
    (pinned : PinnedStatusListIssuer) (entry : CacheEntry)
    : ResolverState :=
  {
    cache := Function.update state.cache pinned.url (some entry)
    calls :=
      Function.update state.calls id
        (some { request, stage := .settled (some pinned) (.ok entry) })
  }

theorem next_accepted {state : DatedState} {id : Nat} {request : ResolveRequest}
    {pinned : PinnedStatusListIssuer} {now : ℚ} {outcomes : List HttpOutcome}
    {entry : CacheEntry}
    (found : state.resolver.calls id = some { request, stage := .fetching pinned now })
    (answered : fetchAndVerify libraries resolver pinned now outcomes = some (.ok entry))
    (usable : Usable resolver entry now request.statusPurpose)
    : (datedMachine libraries resolver).next state (.fetched id outcomes)
      = state.finished (state.resolver.accepted id request pinned entry) id := by
  have accepted
      : ((Except.ok entry : Resolution CacheEntry) >>= fun entry =>
          assertUsable libraries resolver entry now pinned request.statusPurpose)
        = .ok entry :=
    assertUsable_eq_ok.mpr ⟨usable, rfl⟩
  apply Machine.next_of_step
  simp only [datedMachine, resolverMachine, found, answered, Option.map_some, accepted]
  rfl

theorem next_resolve {state : DatedState} {id : Nat} (request : ResolveRequest) (now : ℚ)
    (free : state.resolver.calls id = none)
    : (datedMachine libraries resolver).next state (.resolve id request now)
      = state.resolved
          { state.resolver with
            calls :=
              Function.update state.resolver.calls id
                (some
                  {
                    request
                    stage := startResolve libraries resolver state.resolver.cache request now
                  })
          }
          id := by
  apply Machine.next_of_step
  simp only [datedMachine, resolverMachine, free, Option.map_some]
  rfl

/-- The next call with the same request reads what the fetch brought. -/
theorem read_after_accepted {state : DatedState} {id other : Nat} {request : ResolveRequest}
    {pinned : PinnedStatusListIssuer} {now : ℚ} {outcomes : List HttpOutcome}
    {entry : CacheEntry} (positive : 0 < resolver.cacheTtl)
    (found : pinnedFor resolver request = .ok pinned)
    (answered : fetchAndVerify libraries resolver pinned now outcomes = some (.ok entry))
    (usable : Usable resolver entry now request.statusPurpose)
    (free : state.resolver.calls other = none) (differs : other ≠ id)
    : ∃ after,
        (datedMachine libraries resolver).next
            (state.finished (state.resolver.accepted id request pinned entry) id)
            (.resolve other request now)
          = after
        ∧ after.resolver.calls other
          = some { request, stage := .settled (some pinned) (.ok entry) }
        ∧ after.cleared = state.cleared
        ∧ after.began other = state.clock + 1
        ∧ after.read other = state.began id := by
  have unused
      : (state.finished (state.resolver.accepted id request pinned entry) id).resolver.calls other
        = none :=
    (Function.update_of_ne differs _ _).trans free
  have settled :=
    startResolve_fetched positive found answered usable
      (show (state.resolver.accepted id request pinned entry).cache pinned.url = some entry from
        Function.update_self _ _ _)
  refine ⟨_, next_resolve request now unused, ?_⟩
  simp only [DatedState.finished, settled, DatedState.resolved, Function.update_self,
    Option.map_some, true_and]
  simp only [ResolverState.accepted, Function.update_self, Option.map_some]

/-- A fetch from before an invalidation that is accepted after it makes the invalidation
ineffective for the next call.
-/
theorem late_fetch_is_served (positive : 0 < resolver.cacheTtl) {state : DatedState}
    (dated : Dated resolver state) {id : Nat} {outcomes : List HttpOutcome}
    (late : ¬ FetchedSince libraries resolver state (.fetched id outcomes))
    : ∃ other request now,
        ¬ InvalidationEffective
            ((datedMachine libraries resolver).run state
              [.fetched id outcomes, .resolve other request now]) := by
  simp only [FetchedSince, not_forall, not_lt] at late
  obtain ⟨request, pinned, now, entry, found, answered, usable, invalidation, member, early⟩ := late
  have waiting := dated.calls id _ found
  obtain ⟨asked, -⟩ := waiting.waiting pinned now rfl
  have before : state.began id < invalidation :=
    early.lt_of_ne (fun same => waiting.apart (same ▸ member))
  obtain ⟨bound, free⟩ := dated.bounded
  obtain ⟨after, reached, settled, cleared, began, read⟩ :=
    read_after_accepted positive asked answered usable
      (free (max bound (id + 1)) (Nat.le_max_left _ _))
      (show max bound (id + 1) ≠ id by omega)
  refine ⟨max bound (id + 1), request, now, ?_⟩
  rw [Machine.run_cons, Machine.run_cons, Machine.run_nil, next_accepted found answered usable,
    reached]
  intro effective
  refine effective _ _ _ _ settled invalidation (cleared ▸ member) ?_ (read ▸ before)
  rw [began]
  exact (dated.cleared invalidation member).trans (Nat.lt_succ_self _)

end

-----------------------------------------------------------------------------------------
-- An issuer that answers
-----------------------------------------------------------------------------------------

/-- What the issuer of the example answers is accepted, whichever number the call has. -/
theorem sample_accepted
    : ∃ libraries resolver pinned request now outcomes entry,
        buildResolver libraries
            (defaultLimits
              [samplePin (js "first") (js "https://issuer.example/status") 1] none)
          = .ok resolver
        ∧ 0 < resolver.cacheTtl
        ∧ pinnedFor resolver request = .ok pinned
        ∧ fetchAndVerify libraries resolver pinned now outcomes = some (.ok entry)
        ∧ Usable resolver entry now request.statusPurpose
        ∧ request.statusPurpose = js "revocation" := by
  let url := js "https://issuer.example/status"
  have secure : (js "https://").isPrefixOf url = true := rfl
  obtain ⟨document, published⟩ :=
    sample_publishes secure 1 [] (by decide)
  let libraries := sampleLibraries (parsesOnly document)
  have published : publishStatusList libraries (sampleRequest url 1 [] none) = .ok document :=
    published _
  obtain ⟨list, input, signature, shape⟩ := publishStatusList_eq_ok published
  let pinned := samplePin (js "first") url 1
  let resolver := defaultResolver [pinned] none
  have well : ∀ other ∈ [pinned], PinnedWell libraries other := by
    simp only [List.forall_mem_singleton]
    exact samplePin_well _ _ secure 1
  have build : buildResolver libraries (defaultLimits [pinned] none) = .ok resolver :=
    buildResolver_sample (parsesOnly document) (by simp) well (by decide)
  have answered :=
    sample_fetchAndVerify shape (parsesOnly_servedBody document) (by decide +kernel)
      (show resolver.maxBytes = maxStatusListBytes from rfl) (well pinned List.mem_cons_self)
      { issuer := rfl, method := fun label known => by cases known } rfl 1750000000
  have usable := sample_usable shape resolver (Nat.cast_nonneg _) 1750000000
  have found :=
    (buildResolver_eq_ok build).1.pinnedFor
      (show pinned ∈ resolver.issuers from List.mem_cons_self) (js "revocation")
  exact ⟨libraries, resolver, pinned, _, 1750000000, _, _, build, Nat.cast_pos.mpr (by decide),
    found, answered, usable, rfl⟩

-----------------------------------------------------------------------------------------
-- When invalidation is effective
-----------------------------------------------------------------------------------------

section

variable {libraries : StatusLibraries} {resolver : HardenedStatusListResolver}

/-- Invalidation is effective in every run in which no accepted fetch began before an
invalidation; by induction on the events.
-/
theorem invalidation_effective {inputs : List ResolverEvent}
    (since
      : ∀ state event,
          (state, event) ∈ (datedMachine libraries resolver).trace DatedState.fresh inputs
          → FetchedSince libraries resolver state event)
    : InvalidationEffective
        ((datedMachine libraries resolver).run DatedState.fresh inputs) := by
  have current
      : Current resolver ((datedMachine libraries resolver).run DatedState.fresh inputs) :=
    Machine.run_of_trace
      (fun given event after member stepped current =>
        current.step (since given event member) stepped)
      current_fresh
  exact current.answers

end

/-- A list that is fetched after an invalidation. -/
theorem invalidation_effective_refetched
    : ∃ libraries resolver request now outcomes,
        InvalidationEffective
          ((datedMachine libraries resolver).run DatedState.fresh
            [.invalidate, .resolve 0 request now, .fetched 0 outcomes]) := by
  obtain ⟨libraries, resolver, pinned, request, now, outcomes, entry, -, -, found, answered,
    usable, -⟩ := sample_accepted
  refine ⟨libraries, resolver, request, now, outcomes, invalidation_effective ?_⟩
  intro state event member
  obtain ⟨before, after, split, rfl, -⟩ := Machine.mem_trace member
  rcases before with _ | ⟨first, _ | ⟨second, _ | ⟨third, before⟩⟩⟩
  · cases split
    trivial
  · cases split
    trivial
  · cases split
    rw [Machine.run_cons, Machine.run_cons, Machine.run_nil, next_resolve request now rfl]
    intro _ _ _ _ _ _ _ invalidation cleared
    obtain rfl := List.mem_singleton.mp cleared
    exact Nat.zero_lt_one
  · simp at split

/-- A fetch in flight brings the revoked list back after it was invalidated. -/
theorem invalidation_is_undone
    : ¬ ∀ libraries config resolver inputs,
        buildResolver libraries config = .ok resolver
        → InvalidationEffective
            ((datedMachine libraries resolver).run DatedState.fresh inputs) := by
  intro always
  obtain ⟨libraries, resolver, pinned, request, now, outcomes, entry, build, positive, found,
    answered, usable, -⟩ := sample_accepted
  have stale : NoLiveCopy resolver ResolverState.fresh pinned.url now := by
    intro copy cached
    cases cached
  have started := startResolve_stale libraries found stale
  let inputs : List ResolverEvent := [.resolve 0 request now, .invalidate]
  have dated : Dated resolver ((datedMachine libraries resolver).run DatedState.fresh inputs) :=
    Machine.Preserves.run (fun _ _ _ dated stepped => dated.step stepped) dated_fresh inputs
  have late
      : ¬ FetchedSince libraries resolver
            ((datedMachine libraries resolver).run DatedState.fresh inputs)
            (.fetched 0 outcomes) := by
    rw [Machine.run_cons, Machine.run_cons, Machine.run_nil, next_resolve request now rfl]
    intro since
    -- The call has the number 0 and the invalidation the number 1.
    refine absurd (since request pinned now entry ?_ answered usable 1 List.mem_cons_self) ?_
    · rw [← started]
      rfl
    · exact Nat.not_lt_zero 1
  obtain ⟨other, otherRequest, time, undone⟩ := late_fetch_is_served positive dated late
  apply undone
  rw [← Machine.run_append]
  exact always libraries _ resolver _ build

end StellarOnramp.Gateway
