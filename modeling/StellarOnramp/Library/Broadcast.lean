import Mathlib.Data.List.Basic
import Mathlib.Data.List.Nodup
import Mathlib.Logic.Function.Basic

/-! A log that is handed out to listeners one call at a time. Who subscribes gets the log from
its start and then every later event. Listeners may subscribe and unsubscribe while they are
called, so the calls of a loop are steps of their own.
-/

namespace Broadcast

/-- A log with its listeners, the loops that are under way and what each listener received. -/
structure Feed (Listener Event : Type) where
  log : List Event
  closed : Bool
  listeners : List Listener
  /-- The event that is handed out and the listeners that are still to be called. -/
  sending : Option (Event × List Listener)
  /-- Who reads the log from its start and how far, the innermost loop first. -/
  replaying : List (Listener × Nat)
  /-- What subscribers got to unsubscribe with, and whether it does anything. -/
  handles : List (Listener × Bool)
  received : Listener → List Event
  /-- One entry for each subscription. -/
  joined : List Listener
  /-- How long the log was when a listener first unsubscribed. -/
  left : Listener → Option Nat

variable {Listener Event : Type}

def Feed.empty : Feed Listener Event where
  log := []
  closed := false
  listeners := []
  sending := none
  replaying := []
  handles := []
  received _ := []
  joined := []
  left _ := none

/-- No loop is under way. -/
def Feed.idle (feed : Feed Listener Event) : Bool :=
  feed.sending.isNone && feed.replaying.isEmpty

/-- Append an event and start to hand it out to a copy of the listeners. -/
def Feed.publish (feed : Feed Listener Event) (event : Event) (closes : Bool)
    : Feed Listener Event :=
  {
    feed with
    log := feed.log ++ [event]
    closed := feed.closed || closes
    sending := some (event, feed.listeners)
  }

/-- Start to read the log to a listener. -/
def Feed.subscribe (feed : Feed Listener Event) (listener : Listener) : Feed Listener Event :=
  {
    feed with
    replaying := (listener, 0) :: feed.replaying
    joined := listener :: feed.joined
  }

theorem Feed.idle_iff {feed : Feed Listener Event}
    : feed.idle = true ↔ feed.sending = none ∧ feed.replaying = [] := by
  simp [Feed.idle]

variable [DecidableEq Listener]

/-- A set keeps the place of what it has. -/
def addListener (listeners : List Listener) (listener : Listener) : List Listener :=
  if listener ∈ listeners then listeners else listeners ++ [listener]

/-- Call a listener with an event. -/
def Feed.call (feed : Feed Listener Event) (listener : Listener) (event : Event)
    : Feed Listener Event :=
  {
    feed with
    received := Function.update feed.received listener (feed.received listener ++ [event])
  }

/-- A loop over the log is done: a log that may grow keeps the listener. -/
def Feed.replayed (feed : Feed Listener Event) (listener : Listener) : Feed Listener Event :=
  {
    feed with
    listeners := if feed.closed then feed.listeners else addListener feed.listeners listener
    handles := feed.handles ++ [(listener, !feed.closed)]
  }

/-- The next step of the innermost loop. -/
def Feed.advance (feed : Feed Listener Event) : Feed Listener Event :=
  match feed.replaying with
  | (listener, position) :: outer =>
      match feed.log[position]? with
      | some event =>
          { feed with replaying := (listener, position + 1) :: outer }.call listener event
      | none => { feed with replaying := outer }.replayed listener
  | [] =>
      match feed.sending with
      | some (event, listener :: rest) =>
          { feed with sending := some (event, rest) }.call listener event
      | some (_, []) => { feed with sending := none }
      | none => feed

/-- Unsubscribe with what a subscription returned. -/
def Feed.unsubscribe (feed : Feed Listener Event) (handle : Nat) : Option (Feed Listener Event) :=
  feed.handles[handle]?.map (fun (listener, live) =>
    {
      feed with
      listeners := if live then feed.listeners.filter (· ≠ listener) else feed.listeners
      left :=
        if (feed.left listener).isSome then
          feed.left
        else
          Function.update feed.left listener (some feed.log.length)
    })

-----------------------------------------------------------------------------------------
-- Who gets what
-----------------------------------------------------------------------------------------

/-- What the loop over the listeners still owes a listener. -/
def Feed.owed (feed : Feed Listener Event) (listener : Listener) : List Event :=
  match feed.sending with
  | some (event, rest) => if listener ∈ rest then [event] else []
  | none => []

/-- The log until a listener unsubscribed. -/
def Feed.due (feed : Feed Listener Event) (listener : Listener) : List Event :=
  feed.log.take ((feed.left listener).getD feed.log.length)

/-- A listener that never subscribed. -/
structure Feed.Absent (feed : Feed Listener Event) (listener : Listener) : Prop where
  joined : listener ∉ feed.joined
  received : feed.received listener = []
  listeners : listener ∉ feed.listeners
  sending : ∀ event rest, feed.sending = some (event, rest) → listener ∉ rest
  replaying : ∀ position, (listener, position) ∉ feed.replaying
  handles : ∀ live, (listener, live) ∉ feed.handles
  left : feed.left listener = none

/-- A listener that the log is being read to. -/
structure Feed.Replays (feed : Feed Listener Event) (listener : Listener) (position : Nat)
    : Prop where
  joined : listener ∈ feed.joined
  position_le : position ≤ feed.log.length
  received : feed.received listener = feed.log.take position
  listeners : listener ∉ feed.listeners
  sending : ∀ event rest, feed.sending = some (event, rest) → listener ∉ rest
  replaying : feed.replaying.filter (fun frame => frame.1 = listener) = [(listener, position)]
  handles : ∀ live, (listener, live) ∉ feed.handles
  left : feed.left listener = none

/-- A listener that the log has been read to. -/
structure Feed.Follows (feed : Feed Listener Event) (listener : Listener) : Prop where
  joined : listener ∈ feed.joined
  received : feed.received listener ++ feed.owed listener = feed.due listener
  replaying : ∀ position, (listener, position) ∉ feed.replaying
  /-- A listener is not called again after it unsubscribed. -/
  left_of_mem : listener ∈ feed.listeners → feed.left listener = none
  /-- Only a log that does not grow any more has lost a listener that did not unsubscribe. -/
  closed_of_not_mem : listener ∉ feed.listeners → feed.left listener = none → feed.closed = true
  left_le : ∀ length, feed.left listener = some length → length ≤ feed.log.length
  handles : (listener, false) ∈ feed.handles → listener ∉ feed.listeners

/-- Where a listener that subscribed at most once can be. -/
inductive Feed.Standing (feed : Feed Listener Event) (listener : Listener) : Prop where
  | absent (absent : feed.Absent listener)
  | replays (position : Nat) (replays : feed.Replays listener position)
  | follows (follows : feed.Follows listener)

/-- Listeners are called once an event, and who subscribed once gets what is due. -/
structure Feed.Tracked (feed : Feed Listener Event) : Prop where
  listeners : feed.listeners.Nodup
  sending : ∀ event rest, feed.sending = some (event, rest) → rest.Nodup
  standing : ∀ listener, feed.joined.count listener ≤ 1 → feed.Standing listener

section

variable {feed : Feed Listener Event} {listener : Listener}

theorem Feed.tracked_empty : (Feed.empty : Feed Listener Event).Tracked where
  listeners := List.nodup_nil
  sending _ _ found := by cases found
  standing listener _ :=
    .absent
      {
        joined := List.not_mem_nil
        received := rfl
        listeners := List.not_mem_nil
        sending := fun _ _ found => by cases found
        replaying := fun _ => List.not_mem_nil
        handles := fun _ => List.not_mem_nil
        left := rfl
      }

theorem Feed.owed_of_sending_none (none_sent : feed.sending = none)
    : feed.owed listener = [] := by
  simp [Feed.owed, none_sent]

-----------------------------------------------------------------------------------------
-- Publishing
-----------------------------------------------------------------------------------------

/-- Who follows is owed the new event, unless it unsubscribed. -/
theorem Feed.Follows.publish (follows : feed.Follows listener) (idle : feed.idle = true)
    (growing : feed.closed = false) (event : Event) (closes : Bool)
    : (feed.publish event closes).Follows listener := by
  obtain ⟨none_sent, -⟩ := Feed.idle_iff.mp idle
  have received : feed.received listener = feed.due listener := by
    rw [← follows.received, Feed.owed_of_sending_none none_sent, List.append_nil]
  refine {
    joined := follows.joined
    received := ?_
    replaying := follows.replaying
    left_of_mem := follows.left_of_mem
    closed_of_not_mem := ?_
    left_le := ?_
    handles := follows.handles
  }
  · by_cases member : listener ∈ feed.listeners
    · have left := follows.left_of_mem member
      simp only [Feed.due, left, Option.getD_none, List.take_length] at received
      simp only [Feed.publish, Feed.owed, Feed.due, member, left, received, if_true,
        Option.getD_none, List.take_length]
    · cases left : feed.left listener with
      | none => simp [follows.closed_of_not_mem member left] at growing
      | some length =>
          have short := follows.left_le length left
          simp only [Feed.due, left, Option.getD_some] at received
          simp [Feed.publish, Feed.owed, Feed.due, member, left, received,
            List.take_append_of_le_length short]
  · intro missing left
    simp [follows.closed_of_not_mem missing left] at growing
  · intro length left
    have short := follows.left_le length left
    simp only [Feed.publish, List.length_append]
    omega

theorem Feed.Tracked.publish (tracked : feed.Tracked) (idle : feed.idle = true)
    (growing : feed.closed = false) (event : Event) (closes : Bool)
    : (feed.publish event closes).Tracked where
  listeners := tracked.listeners
  sending given rest sent := by
    cases sent
    exact tracked.listeners
  standing listener once := by
    cases tracked.standing listener once with
    | absent absent =>
        refine .absent { absent with sending := ?_ }
        intro given rest sent
        cases sent
        exact absent.listeners
    | replays position replays =>
        have busy := replays.replaying
        rw [(Feed.idle_iff.mp idle).2] at busy
        cases busy
    | follows follows => exact .follows (follows.publish idle growing event closes)

-----------------------------------------------------------------------------------------
-- Subscribing
-----------------------------------------------------------------------------------------

/-- Another subscription does not matter to a listener. -/
theorem Feed.Standing.subscribe_other (standing : feed.Standing listener) {other : Listener}
    (different : listener ≠ other)
    : (feed.subscribe other).Standing listener := by
  have elsewhere (position : Nat) : (listener, position) ≠ (other, 0) := by
    intro same
    exact different (congrArg Prod.fst same)
  cases standing with
  | absent absent =>
      refine .absent { absent with joined := ?_, replaying := ?_ }
      · simpa [Feed.subscribe, different] using absent.joined
      · intro position member
        rcases List.mem_cons.mp member with here | before
        · exact elsewhere position here
        · exact absent.replaying position before
  | replays position replays =>
      refine .replays position { replays with joined := ?_, replaying := ?_ }
      · exact List.mem_cons_of_mem _ replays.joined
      · rw [← replays.replaying]
        exact List.filter_cons_of_neg (by simpa using Ne.symm different)
  | follows follows =>
      refine .follows { follows with joined := ?_, replaying := ?_ }
      · exact List.mem_cons_of_mem _ follows.joined
      · intro position member
        rcases List.mem_cons.mp member with here | before
        · exact elsewhere position here
        · exact follows.replaying position before

/-- A first subscription starts to read at the first event. -/
theorem Feed.Absent.subscribe (absent : feed.Absent listener)
    : (feed.subscribe listener).Replays listener 0 where
  joined := List.mem_cons_self
  position_le := Nat.zero_le _
  received := absent.received
  listeners := absent.listeners
  sending := absent.sending
  replaying := by
    have before : feed.replaying.filter (fun frame => frame.1 = listener) = [] := by
      apply List.filter_eq_nil_iff.mpr
      intro frame member same
      obtain ⟨other, position⟩ := frame
      obtain rfl : other = listener := by simpa using same
      exact absent.replaying position member
    simp [Feed.subscribe, before]
  handles := absent.handles
  left := absent.left

theorem Feed.Tracked.subscribe (tracked : feed.Tracked) (listener : Listener)
    : (feed.subscribe listener).Tracked where
  listeners := tracked.listeners
  sending := tracked.sending
  standing other once := by
    by_cases same : other = listener
    · subst same
      simp only [Feed.subscribe, List.count_cons_self] at once
      have fresh : other ∉ feed.joined := List.count_eq_zero.mp (by omega)
      cases tracked.standing other (by omega) with
      | absent absent => exact .replays 0 absent.subscribe
      | replays position replays => exact absurd replays.joined fresh
      | follows follows => exact absurd follows.joined fresh
    · have before : feed.joined.count other ≤ 1 := by
        rwa [Feed.subscribe, List.count_cons_of_ne (Ne.symm same)] at once
      exact (tracked.standing other before).subscribe_other same

-----------------------------------------------------------------------------------------
-- Loops
-----------------------------------------------------------------------------------------

@[simp]
theorem Feed.call_received_other {other : Listener} (different : listener ≠ other)
    (event : Event)
    : (feed.call other event).received listener = feed.received listener :=
  Function.update_of_ne different _ _

@[simp]
theorem Feed.call_received_self (event : Event)
    : (feed.call listener event).received listener = feed.received listener ++ [event] :=
  Function.update_self ..

/-- The frames of a listener after a step of the innermost loop. -/
theorem filter_frame_other {other : Listener} (different : listener ≠ other) (position : Nat)
    (outer : List (Listener × Nat))
    : ((other, position) :: outer).filter (fun frame => frame.1 = listener)
      = outer.filter (fun frame => frame.1 = listener) :=
  List.filter_cons_of_neg (by simpa using Ne.symm different)

/-- The only frame of a listener is the innermost one if that is its own. -/
theorem Feed.Replays.innermost {position here : Nat} {outer : List (Listener × Nat)}
    (replays : feed.Replays listener position)
    (running : feed.replaying = (listener, here) :: outer)
    : here = position ∧ outer.filter (fun frame => frame.1 = listener) = [] := by
  have frames := replays.replaying
  rw [running, List.filter_cons_of_pos (by simp)] at frames
  obtain ⟨same, none⟩ := List.cons.inj frames
  exact ⟨congrArg Prod.snd same, none⟩

/-- A loop over the log calls its listener with the next event. -/
theorem Feed.Tracked.replay_call (tracked : feed.Tracked) {other : Listener} {here : Nat}
    {outer : List (Listener × Nat)} {event : Event}
    (running : feed.replaying = (other, here) :: outer) (next : feed.log[here]? = some event)
    : (({ feed with replaying := (other, here + 1) :: outer } : Feed Listener Event).call other
        event).Tracked where
  listeners := tracked.listeners
  sending := tracked.sending
  standing listener once := by
    have elsewhere {position : Nat} (different : listener ≠ other)
        (unread : (listener, position) ∉ feed.replaying)
        : (listener, position) ∉ (other, here + 1) :: outer := by
      rw [running] at unread
      intro member
      rcases List.mem_cons.mp member with same | before
      · exact different (congrArg Prod.fst same)
      · exact unread (List.mem_cons_of_mem _ before)
    have quiet (unread : ∀ position, (listener, position) ∉ feed.replaying)
        : listener ≠ other := by
      intro same
      apply unread here
      rw [running, same]
      exact List.mem_cons_self
    cases tracked.standing listener once with
    | absent absent =>
        have different := quiet absent.replaying
        refine .absent { absent with received := ?_, replaying := ?_ }
        · rw [Feed.call_received_other different]
          exact absent.received
        · intro position
          exact elsewhere different (absent.replaying position)
    | replays position replays =>
        by_cases different : listener ≠ other
        · refine .replays position { replays with received := ?_, replaying := ?_ }
          · rw [Feed.call_received_other different]
            exact replays.received
          · have frames := replays.replaying
            rw [running, filter_frame_other different] at frames
            exact (filter_frame_other different _ _).trans frames
        · obtain rfl := not_not.mp different
          obtain ⟨rfl, rest⟩ := replays.innermost running
          obtain ⟨short, found⟩ := List.getElem?_eq_some_iff.mp next
          have grown : feed.received listener ++ [event] = feed.log.take (here + 1) := by
            rw [replays.received, ← found, List.take_append_getElem]
          refine .replays (here + 1)
            { replays with position_le := short, received := ?_, replaying := ?_ }
          · rw [Feed.call_received_self]
            exact grown
          · exact (List.filter_cons_of_pos (by simp)).trans (congrArg _ rest)
    | follows follows =>
        have different := quiet follows.replaying
        refine .follows { follows with received := ?_, replaying := ?_ }
        · rw [Feed.call_received_other different]
          exact follows.received
        · intro position
          exact elsewhere different (follows.replaying position)

theorem mem_addListener {listeners : List Listener} {other : Listener}
    : listener ∈ addListener listeners other ↔ listener ∈ listeners ∨ listener = other := by
  unfold addListener
  split
  case isTrue known =>
    constructor
    · exact .inl
    · intro either
      rcases either with here | rfl
      · exact here
      · exact known
  case isFalse => simp

theorem nodup_addListener {listeners : List Listener} (distinct : listeners.Nodup)
    (other : Listener)
    : (addListener listeners other).Nodup := by
  unfold addListener
  split
  case isTrue => exact distinct
  case isFalse new =>
    refine List.nodup_append.mpr ⟨distinct, List.pairwise_singleton _ _, ?_⟩
    intro known member given new_member same
    obtain rfl := List.mem_singleton.mp new_member
    exact new (same ▸ member)

theorem Feed.mem_replayed_listeners {other : Listener}
    : listener ∈ (feed.replayed other).listeners
      ↔ listener ∈ feed.listeners ∨ listener = other ∧ feed.closed = false := by
  unfold Feed.replayed
  cases closed : feed.closed
  · simp [mem_addListener]
  · simp

/-- The end of a loop does not matter to another listener. -/
theorem Feed.Standing.replayed_other (standing : feed.Standing listener) {other : Listener}
    (different : listener ≠ other)
    : (feed.replayed other).Standing listener := by
  have listeners : listener ∈ (feed.replayed other).listeners ↔ listener ∈ feed.listeners := by
    simp [Feed.mem_replayed_listeners, different]
  have handles (live : Bool)
      : (listener, live) ∈ (feed.replayed other).handles ↔ (listener, live) ∈ feed.handles := by
    simp [Feed.replayed, different]
  cases standing with
  | absent absent =>
      refine .absent { absent with listeners := ?_, handles := ?_ }
      · exact mt listeners.mp absent.listeners
      · intro live
        exact mt (handles live).mp (absent.handles live)
  | replays position replays =>
      refine .replays position { replays with listeners := ?_, handles := ?_ }
      · exact mt listeners.mp replays.listeners
      · intro live
        exact mt (handles live).mp (replays.handles live)
  | follows follows =>
      refine .follows { follows with left_of_mem := ?_, closed_of_not_mem := ?_, handles := ?_ }
      · intro member
        exact follows.left_of_mem (listeners.mp member)
      · intro missing
        exact follows.closed_of_not_mem (mt listeners.mpr missing)
      · intro handle
        exact mt listeners.mp (follows.handles ((handles false).mp handle))

/-- A listener that the whole log was read to follows it. -/
theorem Feed.Replays.replayed {position : Nat} {outer : List (Listener × Nat)}
    (replays : feed.Replays listener position)
    (running : feed.replaying = (listener, position) :: outer)
    (ended : feed.log[position]? = none)
    : (({ feed with replaying := outer } : Feed Listener Event).replayed listener).Follows
        listener := by
  have whole : feed.received listener = feed.log := by
    rw [replays.received, List.take_of_length_le (List.getElem?_eq_none_iff.mp ended)]
  have nothing_owed : feed.owed listener = [] := by
    unfold Feed.owed
    split
    case h_1 event rest sent => exact if_neg (replays.sending event rest sent)
    case h_2 => rfl
  have everything_due : feed.due listener = feed.log := by
    simp [Feed.due, replays.left]
  refine {
    joined := replays.joined
    received := ?_
    replaying := ?_
    left_of_mem := fun _ => replays.left
    closed_of_not_mem := ?_
    left_le := ?_
    handles := ?_
  }
  · calc
      feed.received listener ++ feed.owed listener = feed.log := by
        rw [whole, nothing_owed, List.append_nil]
      _ = feed.due listener := everything_due.symm
  · intro here member
    have gone := List.filter_eq_nil_iff.mp (replays.innermost running).2 _ member
    simp at gone
  · intro missing _
    cases closed : feed.closed with
    | true => rfl
    | false => exact absurd (Feed.mem_replayed_listeners.mpr (.inr ⟨rfl, closed⟩)) missing
  · intro length left
    cases replays.left.symm.trans left
  · intro handle member
    have closed : feed.closed = true := by
      rcases List.mem_append.mp handle with before | new
      · exact absurd before (replays.handles false)
      · simpa using new
    rcases Feed.mem_replayed_listeners.mp member with before | ⟨-, growing⟩
    · exact replays.listeners before
    · cases closed.symm.trans growing

/-- A loop over the log is done. -/
theorem Feed.Tracked.replay_end (tracked : feed.Tracked) {other : Listener} {here : Nat}
    {outer : List (Listener × Nat)} (running : feed.replaying = (other, here) :: outer)
    (ended : feed.log[here]? = none)
    : (({ feed with replaying := outer } : Feed Listener Event).replayed other).Tracked where
  listeners := by
    change (if feed.closed then feed.listeners else addListener feed.listeners other).Nodup
    split
    · exact tracked.listeners
    · exact nodup_addListener tracked.listeners other
  sending := tracked.sending
  standing listener once := by
    have still {position : Nat} (unread : (listener, position) ∉ feed.replaying)
        : (listener, position) ∉ outer := by
      rw [running] at unread
      exact fun member => unread (List.mem_cons_of_mem _ member)
    have quiet (unread : ∀ position, (listener, position) ∉ feed.replaying)
        : listener ≠ other := by
      intro same
      apply unread here
      rw [running, same]
      exact List.mem_cons_self
    cases tracked.standing listener once with
    | absent absent =>
        have popped : ({ feed with replaying := outer } : Feed Listener Event).Absent listener :=
          { absent with replaying := fun position => still (absent.replaying position) }
        exact (Feed.Standing.absent popped).replayed_other (quiet absent.replaying)
    | replays position replays =>
        by_cases different : listener ≠ other
        · have frames := replays.replaying
          rw [running, filter_frame_other different] at frames
          have popped
              : ({ feed with replaying := outer } : Feed Listener Event).Replays listener
                  position :=
            { replays with replaying := frames }
          exact (Feed.Standing.replays position popped).replayed_other different
        · obtain rfl := not_not.mp different
          obtain ⟨rfl, -⟩ := replays.innermost running
          exact .follows (replays.replayed running ended)
    | follows follows =>
        have popped : ({ feed with replaying := outer } : Feed Listener Event).Follows listener :=
          { follows with replaying := fun position => still (follows.replaying position) }
        exact (Feed.Standing.follows popped).replayed_other (quiet follows.replaying)

/-- A loop over the listeners calls the next one. -/
theorem Feed.Tracked.send_call (tracked : feed.Tracked) {event : Event} {other : Listener}
    {rest : List Listener} (sent : feed.sending = some (event, other :: rest))
    : (({ feed with sending := some (event, rest) } : Feed Listener Event).call other
        event).Tracked where
  listeners := tracked.listeners
  sending given left found := by
    cases found
    exact (tracked.sending event (other :: rest) sent).of_cons
  standing listener once := by
    have skipped
        (uncalled : ∀ given left, feed.sending = some (given, left) → listener ∉ left)
        : listener ≠ other ∧ listener ∉ rest := by
      simpa using uncalled event (other :: rest) sent
    cases tracked.standing listener once with
    | absent absent =>
        obtain ⟨different, later⟩ := skipped absent.sending
        refine .absent { absent with received := ?_, sending := ?_ }
        · rw [Feed.call_received_other different]
          exact absent.received
        · intro given left found
          cases found
          exact later
    | replays position replays =>
        obtain ⟨different, later⟩ := skipped replays.sending
        refine .replays position { replays with received := ?_, sending := ?_ }
        · rw [Feed.call_received_other different]
          exact replays.received
        · intro given left found
          cases found
          exact later
    | follows follows =>
        refine .follows { follows with received := ?_ }
        refine Eq.trans ?_ follows.received
        by_cases different : listener ≠ other
        · rw [Feed.call_received_other different]
          simp [Feed.owed, Feed.call, sent, different]
        · obtain rfl := not_not.mp different
          have gone : listener ∉ rest :=
            (List.nodup_cons.mp (tracked.sending event (listener :: rest) sent)).1
          rw [Feed.call_received_self]
          simp [Feed.owed, Feed.call, sent, gone]

/-- A loop over the listeners is done. -/
theorem Feed.Tracked.send_end (tracked : feed.Tracked) {event : Event}
    (sent : feed.sending = some (event, []))
    : ({ feed with sending := none } : Feed Listener Event).Tracked where
  listeners := tracked.listeners
  sending given left found := by cases found
  standing listener once := by
    cases tracked.standing listener once with
    | absent absent => exact .absent { absent with sending := fun _ _ found => by cases found }
    | replays position replays =>
        exact .replays position { replays with sending := fun _ _ found => by cases found }
    | follows follows =>
        refine .follows { follows with received := ?_ }
        refine Eq.trans ?_ follows.received
        simp [Feed.owed, sent]

/-- A step of a loop appends nothing and subscribes nobody. -/
theorem Feed.advance_frame (feed : Feed Listener Event)
    : feed.advance.log = feed.log
      ∧ feed.advance.closed = feed.closed
      ∧ feed.advance.joined = feed.joined := by
  unfold Feed.advance
  split
  · split <;> exact ⟨rfl, rfl, rfl⟩
  · split <;> exact ⟨rfl, rfl, rfl⟩

theorem Feed.Tracked.advance (tracked : feed.Tracked) : feed.advance.Tracked := by
  unfold Feed.advance
  split
  case h_1 listener position outer running =>
    split
    case h_1 event next => exact tracked.replay_call running next
    case h_2 ended => exact tracked.replay_end running ended
  case h_2 =>
    split
    case h_1 event listener rest sent => exact tracked.send_call sent
    case h_2 event sent => exact tracked.send_end sent
    case h_3 => exact tracked

-----------------------------------------------------------------------------------------
-- Unsubscribing
-----------------------------------------------------------------------------------------

/-- What a call of the function that a subscription returned changes. -/
theorem Feed.unsubscribe_cases {after : Feed Listener Event} {handle : Nat}
    (unsubscribed : feed.unsubscribe handle = some after)
    : ∃ other live,
        (other, live) ∈ feed.handles
        ∧ after
          = {
              feed with
              listeners := if live then feed.listeners.filter (· ≠ other) else feed.listeners
              left :=
                if (feed.left other).isSome then
                  feed.left
                else
                  Function.update feed.left other (some feed.log.length)
            } := by
  obtain ⟨⟨other, live⟩, found, rfl⟩ := Option.map_eq_some_iff.mp unsubscribed
  exact ⟨other, live, List.mem_of_getElem? found, rfl⟩

/-- To unsubscribe appends nothing and subscribes nobody. -/
theorem Feed.unsubscribe_frame {after : Feed Listener Event} {handle : Nat}
    (unsubscribed : feed.unsubscribe handle = some after)
    : after.log = feed.log
      ∧ after.closed = feed.closed
      ∧ after.joined = feed.joined
      ∧ after.sending = feed.sending := by
  obtain ⟨other, live, -, rfl⟩ := Feed.unsubscribe_cases unsubscribed
  exact ⟨rfl, rfl, rfl, rfl⟩

/-- A listener that unsubscribes is due the log as it is, unless it had unsubscribed. -/
theorem Feed.Follows.left_after_unsubscribe (follows : feed.Follows listener)
    : ∃ length,
        (if (feed.left listener).isSome then
            feed.left
          else
            Function.update feed.left listener (some feed.log.length)) listener
          = some length
        ∧ length ≤ feed.log.length
        ∧ feed.log.take length = feed.due listener := by
  cases left : feed.left listener with
  | none =>
      refine ⟨feed.log.length, ?_, Nat.le_refl _, by simp [Feed.due, left]⟩
      simp
  | some length =>
      refine ⟨length, ?_, follows.left_le length left, by simp [Feed.due, left]⟩
      simp [left]

theorem Feed.Tracked.unsubscribe (tracked : feed.Tracked) {after : Feed Listener Event}
    {handle : Nat} (unsubscribed : feed.unsubscribe handle = some after)
    : after.Tracked := by
  obtain ⟨other, live, given, rfl⟩ := Feed.unsubscribe_cases unsubscribed
  have sublist
      : (if live then feed.listeners.filter (· ≠ other) else feed.listeners).Sublist
          feed.listeners := by
    split
    · exact List.filter_sublist
    · exact .refl _
  have member {listener : Listener} (different : listener ≠ other)
      : listener ∈ (if live then feed.listeners.filter (· ≠ other) else feed.listeners)
        ↔ listener ∈ feed.listeners := by
    split <;> simp [different]
  have left {listener : Listener} (different : listener ≠ other)
      : (if (feed.left other).isSome then
            feed.left
          else
            Function.update feed.left other (some feed.log.length)) listener
        = feed.left listener := by
    split
    · rfl
    · exact Function.update_of_ne different _ _
  refine {
    listeners := tracked.listeners.sublist sublist
    sending := tracked.sending
    standing := ?_
  }
  intro listener once
  cases tracked.standing listener once with
  | absent absent =>
      have different : listener ≠ other := fun same => absent.handles live (same ▸ given)
      refine .absent { absent with listeners := ?_, left := (left different).trans absent.left }
      exact mt (member different).mp absent.listeners
  | replays position replays =>
      have different : listener ≠ other := fun same => replays.handles live (same ▸ given)
      refine .replays position
        { replays with listeners := ?_, left := (left different).trans replays.left }
      exact mt (member different).mp replays.listeners
  | follows follows =>
      by_cases different : listener ≠ other
      · refine .follows {
          joined := follows.joined
          received := ?_
          replaying := follows.replaying
          left_of_mem := ?_
          closed_of_not_mem := ?_
          left_le := ?_
          handles := ?_
        }
        · simpa only [Feed.due, Feed.owed, left different] using follows.received
        · intro known
          exact (left different).trans (follows.left_of_mem ((member different).mp known))
        · intro missing stays
          exact follows.closed_of_not_mem (mt (member different).mpr missing)
            ((left different).symm.trans stays)
        · intro length gone
          exact follows.left_le length ((left different).symm.trans gone)
        · intro closed known
          exact follows.handles closed ((member different).mp known)
      · obtain rfl := not_not.mp different
        have gone
            : listener
              ∉ (if live then feed.listeners.filter (· ≠ listener) else feed.listeners) := by
          cases live with
          | true => simp
          | false => exact follows.handles given
        obtain ⟨length, leaves, short, due⟩ := follows.left_after_unsubscribe
        refine .follows {
          joined := follows.joined
          received := ?_
          replaying := follows.replaying
          left_of_mem := fun known => absurd known gone
          closed_of_not_mem := fun _ stays => by cases leaves.symm.trans stays
          left_le := ?_
          handles := fun _ => gone
        }
        · refine follows.received.trans (due.symm.trans ?_)
          simp only [Feed.due, leaves, Option.getD_some]
        · intro other gone_at
          cases leaves.symm.trans gone_at
          exact short

/-- Who subscribed once received a part of the log from its first event on, and between two
loops everything that was due.
-/
theorem Feed.Tracked.delivered (tracked : feed.Tracked) (once : feed.joined.count listener = 1)
    : feed.received listener <+: feed.log
      ∧ (feed.idle = true → feed.received listener = feed.due listener) := by
  cases tracked.standing listener (Nat.le_of_eq once) with
  | absent absent =>
      rw [List.count_eq_zero.mpr absent.joined] at once
      cases once
  | replays position replays =>
      refine ⟨replays.received ▸ List.take_prefix _ _, ?_⟩
      intro idle
      have frames := replays.replaying
      rw [(Feed.idle_iff.mp idle).2] at frames
      cases frames
  | follows follows =>
      have part : feed.received listener <+: feed.due listener :=
        ⟨feed.owed listener, follows.received⟩
      refine ⟨part.trans (List.take_prefix _ _), ?_⟩
      intro idle
      rw [← follows.received, Feed.owed_of_sending_none (Feed.idle_iff.mp idle).1,
        List.append_nil]

/-- Who never subscribed receives nothing. -/
theorem Feed.Tracked.joined_of_received (tracked : feed.Tracked)
    (received : feed.received listener ≠ [])
    : listener ∈ feed.joined := by
  by_contra missing
  have never : feed.joined.count listener = 0 := List.count_eq_zero.mpr missing
  cases tracked.standing listener (by omega) with
  | absent absent => exact received absent.received
  | replays position replays => exact missing replays.joined
  | follows follows => exact missing follows.joined

end

end Broadcast
