import StellarOnramp.Gateway.Invalidation
import StellarOnramp.Library.CivilDates

/-! The times at which a resolver returns a document and keeps one. Each call reads the clock
once, and the readings of different calls may stand in any order.
-/

namespace StellarOnramp.Gateway

open Attempts JsText Octets
open StellarOnramp.Identity
open Transitions
open Doubles (rounded)

-----------------------------------------------------------------------------------------
-- What a call may return
-----------------------------------------------------------------------------------------

/-- The digits behind the point of a date text, as a part of a second. -/
def fractionOf (text : JsString) : ℚ :=
  let digits := (text.drop 20).takeWhile isDigit
  digitsValue digits / 10 ^ digits.length

/-- The instant that a date member names, with its fraction. -/
def instantOfMember (member : Option Json.Value) : Option ℚ := do
  let text ← member.bind Json.Value.asString
  let (fields, whole) ← Calendar.readDateTime text
  let seconds ← Calendar.dateParse fields whole
  some (seconds + fractionOf text)

/-- A document may be returned for a purpose at a reading of the clock; the list is that of the
document, and the times are its times, rounded down to seconds.
-/
structure InWindow (resolver : HardenedStatusListResolver) (entry : CacheEntry) (now : ℚ)
    (wanted : JsString)
    : Prop
    extends Usable resolver entry now wanted where
  validFrom
    : ∃ instant,
        instantOfMember (entry.document.get (js "validFrom")) = some instant
        ∧ entry.validFromSeconds = ⌊instant⌋
  validUntil
    : ∃ instant,
        instantOfMember (entry.document.get (js "validUntil")) = some instant
        ∧ entry.validUntilSeconds = ⌊instant⌋
  list : entry.list = toBitstringStatusList entry.document

/-- The document that a call examines: the copy that is live when it reads the clock, or else
what its own fetch brings.
-/
inductive Examined (libraries : StatusLibraries) (resolver : HardenedStatusListResolver)
    (before : ResolverState) (id : Nat) (pinned : PinnedStatusListIssuer) (now : ℚ)
    (later : List ResolverEvent)
    : CacheEntry → Prop where
  | cached {entry : CacheEntry} (copy : before.cache pinned.url = some entry)
      (live : rounded (now - entry.fetchedAtSeconds) < resolver.cacheTtl)
    : Examined libraries resolver before id pinned now later entry
  | fresh {entry : CacheEntry} {outcomes : List HttpOutcome}
      (stale : NoLiveCopy resolver before pinned.url now)
      (fetch : .fetched id outcomes ∈ later)
      (answered : fetchAndVerify libraries resolver pinned now outcomes = some (.ok entry))
      (fetchedNow : entry.fetchedAtSeconds = now)
    : Examined libraries resolver before id pinned now later entry

/-- A call of the run starts with the request at the reading `now`, for the issuer. -/
structure Starts (libraries : StatusLibraries) (resolver : HardenedStatusListResolver)
    (inputs before later : List ResolverEvent) (id : Nat) (request : ResolveRequest)
    (pinned : PinnedStatusListIssuer) (now : ℚ)
    : Prop where
  split : inputs = before ++ .resolve id request now :: later
  free
    : ((resolverMachine libraries resolver).run ResolverState.fresh before).calls id = none
  pinned : pinnedFor resolver request = .ok pinned

/-- A call of the run fetches the document and returns it. -/
structure Stores (libraries : StatusLibraries) (resolver : HardenedStatusListResolver)
    (state : ResolverState) (event : ResolverEvent) (url : JsString) (entry : CacheEntry)
    (id : Nat) (request : ResolveRequest) (pinned : PinnedStatusListIssuer) (now : ℚ)
    : Prop where
  fetch
    : ∃ outcomes,
        event = .fetched id outcomes
        ∧ fetchAndVerify libraries resolver pinned now outcomes = some (.ok entry)
  waiting : state.calls id = some { request, stage := .fetching pinned now }
  returned
    : ((resolverMachine libraries resolver).next state event).calls id
      = some { request, stage := .settled (some pinned) (.ok entry) }
  url : pinned.url = url
  usable : Usable resolver entry now request.statusPurpose

-----------------------------------------------------------------------------------------
-- What one event brings about
-----------------------------------------------------------------------------------------

section

variable {libraries : StatusLibraries} {resolver : HardenedStatusListResolver}

theorem fractionOf_range (text : JsString) : 0 ≤ fractionOf text ∧ fractionOf text < 1 := by
  have digits : ((text.drop 20).takeWhile isDigit).all isDigit = true :=
    List.all_takeWhile
  have bound : (digitsValue ((text.drop 20).takeWhile isDigit) : ℚ)
      < 10 ^ ((text.drop 20).takeWhile isDigit).length := by
    exact_mod_cast CivilDates.digitsValue_lt digits
  have positive : (0 : ℚ) < 10 ^ ((text.drop 20).takeWhile isDigit).length := by positivity
  exact ⟨div_nonneg (Nat.cast_nonneg _) positive.le, (div_lt_one positive).mpr bound⟩

theorem fractionOf_eq_zero {text : JsString} (whole : (text.drop 20).takeWhile isDigit = [])
    : fractionOf text = 0 := by
  simp [fractionOf, whole, digitsValue]

theorem instantOfMember_of_parsed {text field : JsString} {seconds : Number}
    (read : parseXsdDateTime (some (.string text)) field = .ok seconds)
    : instantOfMember (some (.string text)) = some (seconds + fractionOf text) := by
  simp only [parseXsdDateTime] at read
  split at read
  case h_1 => cases read
  case h_2 fields whole written =>
    split at read
    case h_1 => cases read
    case h_2 instant parsed =>
      cases read
      simp only [instantOfMember, Option.bind_some, Json.Value.asString, written, parsed,
        Option.bind_eq_bind]

/-- What is read of a date member is its instant, rounded down. -/
theorem instant_of_parsed {member : Option Json.Value} {field : JsString} {seconds : Number}
    (read : parseXsdDateTime member field = .ok seconds)
    : ∃ instant, instantOfMember member = some instant ∧ seconds = ⌊instant⌋ := by
  have unread := read
  unfold parseXsdDateTime at unread
  split at unread
  case h_2 => cases unread
  case h_1 text =>
    obtain ⟨natural, small⟩ := fractionOf_range text
    refine ⟨_, instantOfMember_of_parsed read, ?_⟩
    rw [Int.floor_intCast_add, Int.floor_eq_zero_iff.mpr ⟨natural, small⟩, add_zero]

/-- No date text names an instant before the year 0. -/
theorem instantOfMember_ge {member : Option Json.Value} {instant : ℚ}
    (named : instantOfMember member = some instant)
    : -62167219200 ≤ ⌊instant⌋ := by
  obtain ⟨text, -, named⟩ := Option.bind_eq_some_iff.mp named
  obtain ⟨⟨fields, whole⟩, -, named⟩ := Option.bind_eq_some_iff.mp named
  obtain ⟨seconds, parsed, named⟩ := Option.bind_eq_some_iff.mp named
  obtain ⟨natural, small⟩ := fractionOf_range text
  cases named
  rw [Int.floor_intCast_add, Int.floor_eq_zero_iff.mpr ⟨natural, small⟩, add_zero]
  unfold Calendar.dateParse at parsed
  split at parsed
  case isFalse => cases parsed
  case isTrue valid =>
    cases parsed
    have start : Calendar.dayFromYear 0 ≤ Calendar.dayFromYear fields.year :=
      Calendar.dayFromYear_le (Int.natCast_nonneg _)
    have first : Calendar.dayFromYear 0 = -719528 := rfl
    have day := valid.2.2.1
    rw [Calendar.instantOf]
    omega

/-- The difference of two times in whole seconds is exact. -/
theorem rounded_difference {left right : Int} (small : |left| < 2 ^ 52)
    (short : |right| < 2 ^ 52)
    : rounded (left - right) = left - right := by
  obtain ⟨low, high⟩ := abs_lt.mp small
  obtain ⟨below, above⟩ := abs_lt.mp short
  rw [← Int.cast_sub]
  exact Doubles.rounded_intCast (abs_lt.mpr ⟨by omega, by omega⟩)

/-- At a reading of whole seconds the sums and differences are exact. -/
theorem InWindow.exact {entry : CacheEntry} {second : Int} {wanted : JsString}
    (within : InWindow resolver entry second wanted) (small : |second| < 2 ^ 52)
    : (entry.validFromSeconds : ℚ) - 60 ≤ second
      ∧ (second : ℚ) - entry.validFromSeconds ≤ resolver.maxAge := by
  obtain ⟨instant, named, same⟩ := within.validFrom
  have early : (-62167219200 : Int) ≤ (entry.validFromSeconds : Int) :=
    same ▸ instantOfMember_ge named
  obtain ⟨low, high⟩ := abs_lt.mp small
  have begun := within.begun
  rw [show (second : ℚ) + 60 = ((second + 60 : Int) : ℚ) by push_cast; rfl,
    Doubles.rounded_intCast (abs_lt.mpr ⟨by omega, by omega⟩), Int.cast_le] at begun
  have fresh := within.fresh
  rw [← Int.cast_sub, Doubles.rounded_intCast (abs_lt.mpr ⟨by omega, by omega⟩)] at fresh
  constructor
  · have bound : ((entry.validFromSeconds - 60 : Int) : ℚ) ≤ (second : ℚ) :=
      Int.cast_le.mpr (by omega)
    rwa [Int.cast_sub] at bound
  · rwa [Int.cast_sub] at fresh

/-- The times and the list of a fetched entry are read from its document. -/
theorem inWindow_of_fetched {pinned : PinnedStatusListIssuer} {now time : ℚ}
    {outcomes : List HttpOutcome} {entry : CacheEntry} {wanted : JsString}
    (answered : fetchAndVerify libraries resolver pinned now outcomes = some (.ok entry))
    (usable : Usable resolver entry time wanted)
    : InWindow resolver entry time wanted := by
  obtain ⟨response, -, fetched⟩ := fetchAndVerify_eq_ok answered
  exact {
    toUsable := usable
    validFrom := instant_of_parsed fetched.validFrom
    validUntil := instant_of_parsed fetched.validUntil
    list := fetched.list
  }

theorem fetchedAt_of_fetched {pinned : PinnedStatusListIssuer} {now : ℚ}
    {outcomes : List HttpOutcome} {entry : CacheEntry}
    (answered : fetchAndVerify libraries resolver pinned now outcomes = some (.ok entry))
    : entry.fetchedAtSeconds = now := by
  obtain ⟨response, -, fetched⟩ := fetchAndVerify_eq_ok answered
  exact fetched.fetchedAt

/-- An event that changes what is observed is accepted. -/
theorem step_of_change {Value : Type} (observe : ResolverState → Value) {state : ResolverState}
    {event : ResolverEvent} {value : Value} (not_yet : observe state ≠ value)
    (now : observe ((resolverMachine libraries resolver).next state event) = value)
    : ∃ after,
        (resolverMachine libraries resolver).step state event = some after
        ∧ observe after = value := by
  cases outcome : (resolverMachine libraries resolver).step state event with
  | none =>
      rw [Machine.next_of_refused outcome] at now
      exact absurd now not_yet
  | some after =>
      rw [Machine.next_of_step outcome] at now
      exact ⟨after, rfl, now⟩

/-- A copy appears only with a call that returns it. -/
theorem copy_appears {state : ResolverState} {event : ResolverEvent} {url : JsString}
    {entry : CacheEntry} (not_yet : state.cache url ≠ some entry)
    (appears : ((resolverMachine libraries resolver).next state event).cache url = some entry)
    : ∃ id request pinned now,
        Stores libraries resolver state event url entry id request pinned now := by
  obtain ⟨after, stepped, kept⟩ := step_of_change (fun state => state.cache url) not_yet appears
  cases event with
  | invalidate =>
      cases stepped
      cases kept
  | resolve id request now =>
      simp only [resolverMachine] at stepped
      split at stepped
      case h_1 => cases stepped
      case h_2 =>
        cases stepped
        exact absurd kept not_yet
  | fetched id outcomes =>
      obtain ⟨request, pinned, now, found, ⟨accepted, answered, usable, same⟩ | ⟨failure, same⟩⟩ :=
        fetched_cases stepped
      · subst same
        by_cases here : url = pinned.url
        · subst here
          obtain rfl : accepted = entry := by
            simpa only [Function.update_self, Option.some.injEq] using kept
          refine ⟨id, request, pinned, now, ⟨outcomes, rfl, answered⟩, found, ?_, rfl, usable⟩
          rw [Machine.next_of_step stepped]
          exact Function.update_self _ _ _
        · simp only [Function.update_of_ne here] at kept
          exact absurd kept not_yet
      · subst same
        exact absurd kept not_yet

/-- A call appears when it starts or when its fetch ends. -/
theorem call_appears {state : ResolverState} {event : ResolverEvent} {id : Nat}
    {call : ResolveCall} (not_yet : state.calls id ≠ some call)
    (appears : ((resolverMachine libraries resolver).next state event).calls id = some call)
    : (∃ now,
          event = .resolve id call.request now
          ∧ state.calls id = none
          ∧ call.stage = startResolve libraries resolver state.cache call.request now)
      ∨ ∃ outcomes pinned now,
          event = .fetched id outcomes
          ∧ state.calls id
            = some { request := call.request, stage := .fetching pinned now }
          ∧ ((∃ failure, call.stage = .settled (some pinned) (.error failure))
            ∨ ∃ entry,
                fetchAndVerify libraries resolver pinned now outcomes = some (.ok entry)
                ∧ Usable resolver entry now call.request.statusPurpose
                ∧ call.stage = .settled (some pinned) (.ok entry)) := by
  obtain ⟨after, stepped, made⟩ := step_of_change (fun state => state.calls id) not_yet appears
  cases event with
  | invalidate =>
      cases stepped
      exact absurd made not_yet
  | resolve other request now =>
      simp only [resolverMachine] at stepped
      split at stepped
      case h_1 => cases stepped
      case h_2 free =>
        cases stepped
        by_cases here : id = other
        · subst here
          simp only [Function.update_self, Option.some.injEq] at made
          subst made
          exact .inl ⟨now, rfl, free, rfl⟩
        · simp only [Function.update_of_ne here] at made
          exact absurd made not_yet
  | fetched other outcomes =>
      obtain ⟨request, pinned, now, found, outcome⟩ := fetched_cases stepped
      by_cases here : id = other
      · subst here
        refine .inr ⟨outcomes, pinned, now, rfl, ?_⟩
        rcases outcome with ⟨entry, answered, usable, same⟩ | ⟨failure, same⟩
        all_goals
          subst same
          simp only [Function.update_self, Option.some.injEq] at made
          subst made
        · exact ⟨found, .inr ⟨entry, answered, usable, rfl⟩⟩
        · exact ⟨found, .inl ⟨failure, rfl⟩⟩
      · rcases outcome with ⟨entry, answered, usable, same⟩ | ⟨failure, same⟩
        all_goals
          subst same
          simp only [Function.update_of_ne here] at made
          exact absurd made not_yet

/-- A call that waits for its fetch started when no copy was live. -/
theorem fetching_starts {inputs : List ResolverEvent} {id : Nat} {request : ResolveRequest}
    {pinned : PinnedStatusListIssuer} {now : ℚ}
    (waits
      : ((resolverMachine libraries resolver).run ResolverState.fresh inputs).calls id
        = some { request, stage := .fetching pinned now })
    : ∃ before later,
        Starts libraries resolver inputs before later id request pinned now
        ∧ NoLiveCopy resolver
            ((resolverMachine libraries resolver).run ResolverState.fresh before) pinned.url
            now := by
  obtain ⟨before, event, later, rfl, not_yet, appears⟩ :=
    Machine.exists_input_of_run
      (fun state : ResolverState =>
        state.calls id = some { request, stage := .fetching pinned now })
      (fun found => by cases found) waits
  refine ⟨before, later, ?_⟩
  rcases call_appears not_yet appears with
    ⟨time, rfl, free, started⟩ | ⟨_, _, _, rfl, -, ⟨failure, stage⟩ | ⟨entry, -, -, stage⟩⟩
  · rcases startResolve_cases libraries resolver _ request time with
      ⟨failure, settled⟩ | ⟨known, found, ⟨stale, fetching⟩ | ⟨cached, -, -, settled⟩⟩
    · cases started.trans settled
    · cases started.trans fetching
      exact ⟨{ split := rfl, free, pinned := found }, stale⟩
    · cases started.trans settled
  · cases stage
  · cases stage

/-- Every copy was stored by a call that returned it. -/
theorem copy_stored {inputs : List ResolverEvent} {url : JsString} {entry : CacheEntry}
    (copy
      : ((resolverMachine libraries resolver).run ResolverState.fresh inputs).cache url
        = some entry)
    : ∃ before event later id request pinned now,
        inputs = before ++ event :: later
        ∧ Stores libraries resolver
            ((resolverMachine libraries resolver).run ResolverState.fresh before) event url entry
            id request pinned now := by
  obtain ⟨before, event, later, rfl, not_yet, appears⟩ :=
    Machine.exists_input_of_run (fun state : ResolverState => state.cache url = some entry)
      (fun found => by cases found) copy
  obtain ⟨id, request, pinned, now, stores⟩ := copy_appears not_yet appears
  exact ⟨before, event, later, id, request, pinned, now, rfl, stores⟩

/-- Every copy is usable whenever its checks pass, with the times of its document. -/
theorem inWindow_of_copy {inputs : List ResolverEvent} {url : JsString} {entry : CacheEntry}
    {now : ℚ} {wanted : JsString}
    (copy
      : ((resolverMachine libraries resolver).run ResolverState.fresh inputs).cache url
        = some entry)
    (usable : Usable resolver entry now wanted)
    : InWindow resolver entry now wanted := by
  obtain ⟨before, event, later, id, request, pinned, time, -, stores⟩ := copy_stored copy
  obtain ⟨outcomes, -, answered⟩ := stores.fetch
  exact inWindow_of_fetched answered usable

/-- A call that returns a document examined it at the reading it started with. -/
theorem answer_examined {inputs : List ResolverEvent} {id : Nat} {call : ResolveCall}
    {settledFor : Option PinnedStatusListIssuer} {entry : CacheEntry}
    (made
      : ((resolverMachine libraries resolver).run ResolverState.fresh inputs).calls id
        = some call)
    (settled : call.stage = .settled settledFor (.ok entry))
    : ∃ before later pinned now,
        Starts libraries resolver inputs before later id call.request pinned now
        ∧ Examined libraries resolver
            ((resolverMachine libraries resolver).run ResolverState.fresh before) id pinned now
            later entry
        ∧ InWindow resolver entry now call.request.statusPurpose := by
  obtain ⟨before, event, later, rfl, not_yet, appears⟩ :=
    Machine.exists_input_of_run (fun state : ResolverState => state.calls id = some call)
      (fun found => by cases found) made
  rcases call_appears not_yet appears with
    ⟨now, rfl, free, started⟩
    | ⟨outcomes, pinned, now, rfl, waits, ⟨failure, stage⟩ | ⟨returned, answered, usable, stage⟩⟩
  · rcases startResolve_cases libraries resolver _ call.request now with
      ⟨failure, stage⟩ | ⟨pinned, found, ⟨-, stage⟩ | ⟨cached, copy, live, stage⟩⟩
    · cases settled.symm.trans (started.trans stage)
    · cases settled.symm.trans (started.trans stage)
    · obtain ⟨-, outcome⟩ := ResolveStage.settled.inj (settled.symm.trans (started.trans stage))
      obtain ⟨usable, rfl⟩ := assertUsable_eq_ok.mp outcome.symm
      exact ⟨before, later, pinned, now, { split := rfl, free, pinned := found },
        .cached copy live, inWindow_of_copy copy usable⟩
  · cases settled.symm.trans stage
  · obtain ⟨-, outcome⟩ := ResolveStage.settled.inj (settled.symm.trans stage)
    obtain rfl := Except.ok.inj outcome
    obtain ⟨first, rest, starts, stale⟩ := fetching_starts waits
    obtain ⟨rfl, free, found⟩ := starts
    refine ⟨first, rest ++ .fetched id outcomes :: later, pinned, now,
      { split := by simp, free, pinned := found }, ?_, inWindow_of_fetched answered usable⟩
    exact .fresh stale (by simp) answered (fetchedAt_of_fetched answered)

/-- An event that ends a call with an error, or starts one, leaves the copies as they are. -/
theorem copies_after_error {state : ResolverState} {id : Nat} {outcomes : List HttpOutcome}
    {request : ResolveRequest} {pinned : Option PinnedStatusListIssuer}
    {failure : ResolveFailure}
    (fails
      : ((resolverMachine libraries resolver).next state (.fetched id outcomes)).calls id
        = some { request, stage := .settled pinned (.error failure) })
    : ((resolverMachine libraries resolver).next state (.fetched id outcomes)).cache
      = state.cache := by
  cases outcome : (resolverMachine libraries resolver).step state (.fetched id outcomes) with
  | none => rw [Machine.next_of_refused outcome]
  | some after =>
      rw [Machine.next_of_step outcome] at fails ⊢
      obtain ⟨_, _, _, -, ⟨entry, -, -, rfl⟩ | ⟨_, rfl⟩⟩ := fetched_cases outcome
      · simp at fails
      · rfl

theorem copies_after_start (libraries : StatusLibraries)
    (resolver : HardenedStatusListResolver) (state : ResolverState) (id : Nat)
    (request : ResolveRequest) (now : ℚ)
    : ((resolverMachine libraries resolver).next state (.resolve id request now)).cache
      = state.cache := by
  simp only [Machine.next, resolverMachine]
  cases state.calls id <;> rfl

end

-----------------------------------------------------------------------------------------
-- The time window
-----------------------------------------------------------------------------------------

/-- Every document that a call returns is in its window at the one reading of the call; a copy
is returned only while it is live, and a document becomes a copy only in a call that returns
it. A call that throws leaves the copies as they are.
-/
theorem resolver_time_window (libraries : StatusLibraries)
    (resolver : HardenedStatusListResolver) (inputs : List ResolverEvent)
    : let machine := resolverMachine libraries resolver
      let state := machine.run ResolverState.fresh inputs
      (∀ id call settledFor entry,
          state.calls id = some call
          → call.stage = .settled settledFor (.ok entry)
          → ∃ before later pinned now,
              Starts libraries resolver inputs before later id call.request pinned now
              ∧ Examined libraries resolver (machine.run ResolverState.fresh before) id pinned now
                  later entry
              ∧ InWindow resolver entry now call.request.statusPurpose)
      ∧ (∀ url entry,
          state.cache url = some entry
          → ∃ before event later id request pinned now,
              inputs = before ++ event :: later
              ∧ Stores libraries resolver (machine.run ResolverState.fresh before) event url entry
                  id request pinned now
              ∧ InWindow resolver entry now request.statusPurpose
              ∧ entry.fetchedAtSeconds = now)
      ∧ (∀ id request now, (machine.next state (.resolve id request now)).cache = state.cache)
      ∧ (∀ id outcomes request pinned failure,
          (machine.next state (.fetched id outcomes)).calls id
            = some { request, stage := .settled pinned (.error failure) }
          → (machine.next state (.fetched id outcomes)).cache = state.cache)
      ∧ (∀ entry (second : Int) wanted,
          InWindow resolver entry second wanted
          → |second| < 2 ^ 52
          → (entry.validFromSeconds : ℚ) - 60 ≤ second
            ∧ (second : ℚ) - entry.validFromSeconds ≤ resolver.maxAge)
      ∧ ∀ second fetchedAt : Int,
          |second| < 2 ^ 52
          → |fetchedAt| < 2 ^ 52
          → rounded (second - fetchedAt) = second - fetchedAt := by
  intro machine state
  refine ⟨?_, ?_, ?_, ?_, ?_, ?_⟩
  · intro id call settledFor entry made settled
    exact answer_examined made settled
  · intro url entry copy
    obtain ⟨before, event, later, id, request, pinned, now, split, stores⟩ := copy_stored copy
    obtain ⟨outcomes, -, answered⟩ := stores.fetch
    exact ⟨before, event, later, id, request, pinned, now, split, stores,
      inWindow_of_fetched answered stores.usable, fetchedAt_of_fetched answered⟩
  · exact copies_after_start libraries resolver state
  · intro id outcomes request pinned failure fails
    exact copies_after_error fails
  · intro entry second wanted within small
    exact within.exact small
  · intro second fetchedAt small early
    exact rounded_difference small early

-----------------------------------------------------------------------------------------
-- Where the window is not exact
-----------------------------------------------------------------------------------------

/-- A call of the run that reads the clock at `now` returns the document. -/
def ReturnsAt (libraries : StatusLibraries) (resolver : HardenedStatusListResolver)
    (inputs : List ResolverEvent) (now : ℚ) (entry : CacheEntry)
    : Prop :=
  ∃ before later id request pinned,
    Starts libraries resolver inputs before later id request pinned now
    ∧ ((resolverMachine libraries resolver).run ResolverState.fresh inputs).calls id
      = some { request, stage := .settled (some pinned) (.ok entry) }

/-- Every document that is returned at one of the readings is at most a minute early, if its date
is one of those given.
-/
def BegunExactly (readings dates : Set ℚ) : Prop :=
  ∀ libraries config resolver inputs now entry instant,
    buildResolver libraries config = .ok resolver
    → ReturnsAt libraries resolver inputs now entry
    → instantOfMember (entry.document.get (js "validFrom")) = some instant
    → now ∈ readings
    → instant ∈ dates
    → instant - 60 ≤ now

/-- The signature of the example issuer under a message. -/
theorem sample_signed (octet : UInt8) (message : Bytes)
    : (samplePublicKey octet ++ sampleSha256 message).length = 64
      ∧ sampleSignatures.verify (spkiPrologue ++ samplePublicKey octet) message
          (samplePublicKey octet ++ sampleSha256 message)
        = some true := by
  constructor
  · simp [samplePublicKey, sampleSha256]
  · simp [sampleSignatures, samplePublicKey, spkiPrologue]

/-- The example issuer's documents of any dates verify. -/
theorem sample_sealed {url validFrom validUntil : JsString} {octet : UInt8}
    {revoked : List Number} {list : BitstringStatusList} {message : Bytes}
    (named : url ≠ []) (filled : validFrom ≠ [] ∧ validUntil ≠ [])
    (written
      : statusListSigningInput sampleSha256
          (unsignedDocument (sampleRequest url octet revoked none) list validFrom validUntil)
          (proofConfigOf (sampleRequest url octet revoked none) validFrom)
        = .ok message)
    (parseJson : Bytes → Option Json.Value) (issuerId : JsString)
    : verifyStatusListCredential (sampleLibraries parseJson).signatures
        (sampleLibraries parseJson).sha256
        (sealedDocument (sampleRequest url octet revoked none) list validFrom validUntil
          (samplePublicKey octet ++ sampleSha256 message))
        (samplePin issuerId url octet).signer
      = .ok () := by
  have issuer : js "issuer" ≠ [] := by decide
  obtain ⟨signed, checked⟩ := sample_signed octet message
  have accepts :=
    @verify_sealedDocument (sampleLibraries parseJson) (sampleRequest url octet revoked none)
      validFrom validUntil list message (samplePublicKey octet ++ sampleSha256 message) named issuer
      filled.1 filled.2 written (samplePin issuerId url octet).signer
  refine accepts.mpr ⟨?_, List.length_replicate, signed, checked⟩
  exact { issuer := rfl, method := fun label known => by cases known }

/-- The example issuer answers with a list of any dates, and the resolver returns it at a reading
before it begins.
-/
theorem exists_returned {validFrom validUntil : JsString} {begins ends : Number} {now : ℚ}
    (fromRead : parseXsdDateTime (some (.string validFrom)) (js "validFrom") = .ok begins)
    (untilRead : parseXsdDateTime (some (.string validUntil)) (js "validUntil") = .ok ends)
    (filled : validFrom ≠ [] ∧ validUntil ≠ [])
    (window : begins < ends) (begun : (begins : ℚ) ≤ rounded (now + 60)) (valid : now < ends)
    (early : now ≤ begins)
    : ∃ libraries config resolver inputs entry,
        buildResolver libraries config = .ok resolver
        ∧ ReturnsAt libraries resolver inputs now entry
        ∧ instantOfMember (entry.document.get (js "validFrom"))
          = some (begins + fractionOf validFrom) := by
  let url := js "https://issuer.example/status"
  have secure : (js "https://").isPrefixOf url = true := rfl
  obtain ⟨document, published⟩ := sample_publishes secure 1 [] (by decide)
  obtain ⟨list, _, _, shape⟩ := publishStatusList_eq_ok (published (fun _ => none))
  obtain ⟨bits, encoded, length, -⟩ := sample_encoded shape
  have purpose : list.statusPurpose = js "revocation" := by
    rw [encoded.list, wireList_statusPurpose]
    rfl
  have decodes
      : decodeStatusList samplePlatform list (some list.statusPurpose)
        = .ok { statusPurpose := js "revocation", statusSize := 1, bits } := by
    rw [purpose]
    exact
      (encoded.decodeStatusList_eq_ok samplePlatform_roundTrips).mpr
        ⟨length.trans_le (by decide), rfl⟩
  let request := sampleRequest url 1 [] none
  obtain ⟨message, written⟩
      : ∃ message,
          statusListSigningInput sampleSha256 (unsignedDocument request list validFrom validUntil)
              (proofConfigOf request validFrom)
            = .ok message := by
    rw [encoded.list]
    exact exists_signingInput sampleSha256 request _ _ validFrom validUntil validFrom
  -- The document is only known by what it is read as.
  obtain ⟨document, verifies, begins_at, ends_at, read⟩
      : ∃ document : Json.Value,
          (∀ parseJson issuerId,
            verifyStatusListCredential (sampleLibraries parseJson).signatures
                (sampleLibraries parseJson).sha256 document (samplePin issuerId url 1).signer
              = .ok ())
          ∧ document.get (js "validFrom") = some (.string validFrom)
          ∧ document.get (js "validUntil") = some (.string validUntil)
          ∧ toBitstringStatusList document = list :=
    ⟨_, sample_sealed (by decide) filled written, rfl, rfl,
      toBitstringStatusList_sealedDocument request list validFrom validUntil _⟩
  let libraries := sampleLibraries (parsesOnly document)
  let pinned := samplePin (js "first") url 1
  let config :=
    { defaultLimits [pinned] none with maxBytes := some ((servedBody document).length : Int) }
  let resolver :=
    { defaultResolver [pinned] none with maxBytes := ((servedBody document).length : Int) }
  let entry : CacheEntry :=
    {
      document
      list
      validFromSeconds := begins
      validUntilSeconds := ends
      fetchedAtSeconds := now
    }
  let asked : ResolveRequest :=
    { issuerId := some pinned.issuerId, statusPurpose := js "revocation" }
  have well : PinnedWell libraries pinned := samplePin_well _ _ secure 1
  have build : buildResolver libraries config = .ok resolver := by
    refine buildResolver_sized (List.cons_ne_nil _ _) ?_ none _
    exact pinIssuers_succeeds [] (List.nodup_singleton _) (List.forall_mem_singleton.mpr well)
  have fetched : Fetched libraries resolver pinned now (servedResponse document) entry := by
    refine {
      status := rfl
      short := le_rfl
      parsed := parsesOnly_servedBody document
      verified := verifies (parsesOnly document) (js "first")
      validFrom := begins_at ▸ fromRead
      validUntil := ends_at ▸ untilRead
      window
      list := read.symm
      decodes := ⟨_, decodes⟩
      fetchedAt := rfl
    }
  obtain ⟨source, answered⟩ :=
    fetchAndVerify_response resolver now well
      (show (servedResponse document).status = 200 from rfl)
  rw [verifyResponse_eq_ok.mpr fetched] at answered
  have fresh : rounded (now - begins) ≤ defaultStatusListMaxAgeSeconds := by
    calc
      rounded (now - begins) ≤ rounded 0 := Doubles.rounded_mono (sub_nonpos.mpr early)
      _ = 0 := Doubles.rounded_zero
      _ ≤ defaultStatusListMaxAgeSeconds := by norm_num [defaultStatusListMaxAgeSeconds]
  have usable : Usable resolver entry now (js "revocation") := { begun, valid, fresh, purpose }
  have found :=
    (buildResolver_eq_ok build).1.pinnedFor
      (show pinned ∈ resolver.issuers from List.mem_cons_self) (js "revocation")
  have settled :=
    run_resolve_fetched found
      (show NoLiveCopy resolver ResolverState.fresh pinned.url now from
        fun _ cached => by cases cached)
      (show ResolverState.fresh.calls 0 = none from rfl) answered
  have accepted
      : ((Except.ok entry : Resolution CacheEntry)
          >>= fun entry => assertUsable libraries resolver entry now pinned (js "revocation"))
        = .ok entry :=
    assertUsable_eq_ok.mpr ⟨usable, rfl⟩
  rw [accepted] at settled
  have returned
      : ReturnsAt libraries resolver
          [.resolve 0 asked now, .fetched 0 [.response (servedResponse document)]] now entry :=
    ⟨[], _, 0, asked, pinned, { split := rfl, free := rfl, pinned := found }, settled⟩
  have named := instantOfMember_of_parsed fromRead
  rw [← begins_at] at named
  exact ⟨libraries, config, resolver, _, entry, build, returned, named⟩

/-- A call examined the document and it failed a check there. -/
def FailedCheck (libraries : StatusLibraries) (resolver : HardenedStatusListResolver)
    (inputs : List ResolverEvent) (entry : CacheEntry)
    : Prop :=
  ∃ before later id request pinned now,
    Starts libraries resolver inputs before later id request pinned now
    ∧ Examined libraries resolver
        ((resolverMachine libraries resolver).run ResolverState.fresh before) id pinned now later
        entry
    ∧ ¬ Usable resolver entry now request.statusPurpose

/-- A copy of a revocation list that is asked about suspension fails the check of its purpose
and stays.
-/
theorem failed_copy_stays
    : ¬ ∀ libraries config resolver inputs entry,
        buildResolver libraries config = .ok resolver
        → FailedCheck libraries resolver inputs entry
        → ∀ url,
            ((resolverMachine libraries resolver).run ResolverState.fresh inputs).cache url
            ≠ some entry := by
  intro never
  obtain ⟨libraries, resolver, pinned, request, now, outcomes, entry, build, positive, found,
    answered, usable, revocation⟩ := sample_accepted
  let other : ResolveRequest := { request with statusPurpose := js "suspension" }
  have stale : NoLiveCopy resolver ResolverState.fresh pinned.url now := by
    intro copy cached
    cases cached
  obtain ⟨copies, others⟩ :=
    run_resolve_accepted found stale (show ResolverState.fresh.calls 0 = none from rfl) answered
      usable
  let fetch : List ResolverEvent := [.resolve 0 request now, .fetched 0 outcomes]
  have copy
      : ((resolverMachine libraries resolver).run ResolverState.fresh fetch).cache pinned.url
        = some entry := by
    rw [copies, Function.update_self]
  have live : rounded (now - entry.fetchedAtSeconds) < resolver.cacheTtl := by
    rwa [fetchedAt_of_fetched answered, sub_self, Doubles.rounded_zero]
  have failed
      : FailedCheck libraries resolver (fetch ++ [.resolve 1 other now]) entry := by
    refine ⟨fetch, [], 1, other, pinned, now, ?_, .cached copy live, ?_⟩
    · exact { split := rfl, free := others 1 Nat.one_ne_zero, pinned := found }
    · intro again
      have same : js "revocation" = js "suspension" :=
        revocation.symm.trans (usable.purpose.symm.trans again.purpose)
      exact absurd same (by decide)
  apply never libraries _ resolver _ entry build failed pinned.url
  rw [Machine.run_append, Machine.run_cons, Machine.run_nil, copies_after_start]
  exact copy

/-- A fraction of the date is dropped: a minute before noon, a list that begins after noon is
returned.
-/
theorem begun_before_fraction : ¬ BegunExactly (Set.range ((↑) : Int → ℚ)) Set.univ := by
  intro exactly
  have begun : ((1789646400 : Number) : ℚ) ≤ rounded (((1789646340 : Int) : ℚ) + 60) := by
    rw [show ((1789646340 : Int) : ℚ) + 60 = (1789646400 : Int) by norm_num,
      Doubles.rounded_intCast (show |(1789646400 : Int)| < 2 ^ 53 by decide)]
  obtain ⟨libraries, config, resolver, inputs, entry, build, returned, named⟩ :=
    @exists_returned (js "2026-09-17T12:00:00.999Z") (js "2100-01-01T00:00:00Z") 1789646400
      4102444800 _ rfl rfl (by decide) (by decide) begun (by norm_num) (by norm_num)
  rw [show fractionOf (js "2026-09-17T12:00:00.999Z") = 999 / 1000 from rfl] at named
  have late := exactly libraries config resolver inputs _ entry _ build returned named
    ⟨1789646340, rfl⟩ (Set.mem_univ _)
  norm_num at late

/-- The sum is rounded: a reading just over a minute before the list begins counts as a minute.
The reading is a double, and the date is in whole seconds.
-/
theorem begun_before_rounding
    : ¬ BegunExactly { reading | rounded reading = reading } (Set.range ((↑) : Int → ℚ)) := by
  intro exactly
  let now : ℚ := 2147483589 - 1 / 2 ^ 22
  have reading : rounded now = now := by
    have last : Doubles.lastDigit now = 30 - 52 :=
      Doubles.lastDigit_of_range (by norm_num) (by norm_num [now]) (by norm_num [now])
    refine @Doubles.rounded_of_grid now (2147483589 * 2 ^ 22 - 1) ?_
    rw [last]
    norm_num [now]
  have sum : rounded (now + 60) = 2147483649 := by
    have last : Doubles.lastDigit (now + 60) = 31 - 52 :=
      Doubles.lastDigit_of_range (by norm_num) (by norm_num [now]) (by norm_num [now])
    have tie
        : Doubles.nearestEven ((now + 60) / 2 ^ (31 - 52 : Int)) = 2147483649 * 2 ^ 21 :=
      Doubles.nearestEven_below_even (by decide) (by norm_num [now])
    rw [rounded, last, tie]
    norm_num
  obtain ⟨libraries, config, resolver, inputs, entry, build, returned, named⟩ :=
    @exists_returned (js "2038-01-19T03:14:09Z") (js "2100-01-01T00:00:00Z") 2147483649
      4102444800 now rfl rfl (by decide) (by decide) (by rw [sum]; norm_num) (by norm_num [now])
      (by norm_num [now])
  have whole : fractionOf (js "2038-01-19T03:14:09Z") = 0 :=
    fractionOf_eq_zero (show ((js "2038-01-19T03:14:09Z").drop 20).takeWhile isDigit = [] from rfl)
  rw [whole, add_zero] at named
  have late := exactly libraries config resolver inputs _ entry _ build returned named reading
    ⟨2147483649, rfl⟩
  norm_num [now] at late

/-- Three parts of the plain reading that fail: a copy that fails a later check stays, a
fraction of a date is dropped, and the sum with the allowed minute is rounded.
-/
theorem time_window_not_exact
    : (¬ ∀ libraries config resolver inputs entry,
          buildResolver libraries config = .ok resolver
          → FailedCheck libraries resolver inputs entry
          → ∀ url,
              ((resolverMachine libraries resolver).run ResolverState.fresh inputs).cache url
              ≠ some entry)
      ∧ ¬ BegunExactly (Set.range ((↑) : Int → ℚ)) Set.univ
      ∧ ¬ BegunExactly { reading | rounded reading = reading } (Set.range ((↑) : Int → ℚ)) :=
  ⟨failed_copy_stays, begun_before_fraction, begun_before_rounding⟩

end StellarOnramp.Gateway
