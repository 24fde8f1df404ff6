import Mathlib.Data.List.Pairwise
import Mathlib.Order.Basic
import Mathlib.Algebra.Order.Group.Int

/-! Counting calls in fixed windows. A window opens with the first call after the one before it
is over, so the calls that pass in any span of time lie in at most two windows.
-/

namespace FixedWindows

/-- A window, up to the moment at which it is over. -/
structure Window where
  count : Nat
  resetAt : Int
  deriving DecidableEq

/-- How many calls pass in a window, and how long it is open. -/
structure Policy where
  limit : Nat
  span : Int

variable {policy : Policy} {window other : Option Window} {now later : Int}

/-- One call: the window after it, and whether the call is over the limit. The call that opens a
window is never over it.
-/
def Policy.call (policy : Policy) (window : Option Window) (now : Int) : Window × Bool :=
  match window with
  | none => ({ count := 1, resetAt := now + policy.span }, false)
  | some window =>
      if window.resetAt ≤ now then
        ({ count := 1, resetAt := now + policy.span }, false)
      else
        ({ window with count := window.count + 1 }, policy.limit < window.count + 1)

/-- The calls at these moments, and which of them are over the limit. -/
def Policy.log (policy : Policy) : Option Window → List Int → List (Int × Bool)
  | _, [] => []
  | window, now :: rest =>
      (now, (policy.call window now).2) :: policy.log (some (policy.call window now).1) rest

/-- A call opens a window, or counts in one that is open. -/
theorem call_cases (policy : Policy) (window : Option Window) (now : Int)
    : ((∀ counted ∈ window, counted.resetAt ≤ now)
        ∧ policy.call window now = ({ count := 1, resetAt := now + policy.span }, false))
      ∨ ∃ counted,
          window = some counted
          ∧ now < counted.resetAt
          ∧ policy.call window now
            = ({ counted with count := counted.count + 1 },
                decide (policy.limit < counted.count + 1)) := by
  cases window with
  | none => exact .inl ⟨fun _ absent => (Option.not_mem_none _ absent).elim, rfl⟩
  | some window =>
      rw [Policy.call]
      split
      case isTrue spent => exact .inl ⟨fun _ member => Option.mem_some.mp member ▸ spent, rfl⟩
      case isFalse running => exact .inr ⟨window, rfl, not_le.mp running, rfl⟩

-----------------------------------------------------------------------------------------
-- A window that is over
-----------------------------------------------------------------------------------------

/-- The window as long as it is open. -/
def openAt (now : Int) (window : Option Window) : Option Window :=
  window.filter (fun window => now < window.resetAt)

@[simp]
theorem openAt_none : openAt now none = none := rfl

theorem openAt_some {window : Window}
    : openAt now (some window) = if window.resetAt ≤ now then none else some window := by
  simp only [openAt, Option.filter_some, decide_eq_true_eq, ← not_le, ite_not]

/-- A window that is over is as good as none. -/
theorem call_openAt : policy.call (openAt now window) now = policy.call window now := by
  cases window with
  | none => rfl
  | some window =>
      rw [openAt_some]
      by_cases spent : window.resetAt ≤ now
      · simp only [spent, ↓reduceIte, Policy.call]
      · simp only [spent, ↓reduceIte]

/-- A window that is over stays over. -/
theorem openAt_openAt (order : now ≤ later)
    : openAt later (openAt now window) = openAt later window := by
  cases window with
  | none => rfl
  | some window =>
      rw [openAt_some, openAt_some]
      by_cases spent : window.resetAt ≤ now
      · simp only [spent, spent.trans order, ↓reduceIte, openAt_none]
      · simp only [spent, ↓reduceIte, openAt_some]

theorem openAt_congr (same : openAt now window = openAt now other) (order : now ≤ later)
    : openAt later window = openAt later other := by
  rw [← openAt_openAt order, same, openAt_openAt order]

theorem call_congr (same : openAt now window = openAt now other) (order : now ≤ later)
    : policy.call window later = policy.call other later := by
  rw [← call_openAt, openAt_congr same order, call_openAt]

-----------------------------------------------------------------------------------------
-- How many calls pass in a span
-----------------------------------------------------------------------------------------

/-- The calls that pass from a moment on, for the length of a window. -/
def Policy.passedFrom (policy : Policy) (start : Int) (window : Option Window)
    (moments : List Int)
    : Nat :=
  ((policy.log window moments).filter
    (fun call => call.2 = false ∧ start ≤ call.1 ∧ call.1 < start + policy.span)).length

variable {start : Int} {moments : List Int}

theorem passedFrom_cons
    : policy.passedFrom start window (now :: moments)
      = policy.passedFrom start (some (policy.call window now).1) moments
        + if (policy.call window now).2 = false ∧ start ≤ now ∧ now < start + policy.span then 1
          else 0 := by
  unfold Policy.passedFrom
  rw [Policy.log]
  by_cases passes
      : (policy.call window now).2 = false ∧ start ≤ now ∧ now < start + policy.span
  · rw [List.filter_cons_of_pos (by simpa using passes), if_pos passes, List.length_cons]
  · rw [List.filter_cons_of_neg (by simpa using passes), if_neg passes, Nat.add_zero]

/-- Nothing passes in a span that is over, by induction on the calls. -/
theorem passedFrom_past (past : ∀ now ∈ moments, start + policy.span ≤ now)
    : policy.passedFrom start window moments = 0 := by
  induction moments generalizing window with
  | nil => rfl
  | cons now rest ih =>
      obtain ⟨here, rest⟩ := List.forall_mem_cons.mp past
      rw [passedFrom_cons, ih rest, if_neg]
      rintro ⟨-, -, before⟩
      exact absurd here (not_le.mpr before)

/-- While a window is open that outlasts the span, only its own calls pass in the span. The
induction is on the calls.
-/
theorem passedFrom_outlasting {window : Window} (outlasts : start + policy.span ≤ window.resetAt)
    (ordered : moments.Pairwise (· ≤ ·))
    : policy.passedFrom start (some window) moments + window.count
      ≤ max policy.limit window.count := by
  induction moments generalizing window with
  | nil => exact (Nat.zero_add _).trans_le (Nat.le_max_right _ _)
  | cons now rest ih =>
      obtain ⟨after, ordered⟩ := List.pairwise_cons.mp ordered
      rcases call_cases policy (some window) now with ⟨spent, -⟩ | ⟨_, same, -, counted⟩
      · have spent := spent window rfl
        have past : ∀ moment ∈ now :: rest, start + policy.span ≤ moment := by
          refine List.forall_mem_cons.mpr ⟨outlasts.trans spent, fun moment member => ?_⟩
          exact outlasts.trans (spent.trans (after moment member))
        rw [passedFrom_past past]
        omega
      · obtain rfl := Option.some.inj same
        have later := @ih { window with count := window.count + 1 } outlasts ordered
        rw [passedFrom_cons, counted]
        simp only [decide_eq_false_iff_not, not_lt] at later ⊢
        split <;> omega

/-- A window that opens in the span outlasts it. -/
theorem passedFrom_opened (within : start ≤ now) (ordered : moments.Pairwise (· ≤ ·))
    : policy.passedFrom start (some { count := 1, resetAt := now + policy.span }) moments + 1
      ≤ max policy.limit 1 :=
  passedFrom_outlasting (Int.add_le_add_right within _) ordered

/-- While a window is open that reaches the span, at most one more window opens in the span. The
induction is on the calls.
-/
theorem passedFrom_reaching {window : Window} (reaches : start ≤ window.resetAt)
    (ordered : moments.Pairwise (· ≤ ·))
    : policy.passedFrom start (some window) moments + window.count
      ≤ max policy.limit window.count + max policy.limit 1 := by
  induction moments generalizing window with
  | nil =>
      refine ((Nat.zero_add _).trans_le (Nat.le_max_right _ _)).trans (Nat.le_add_right _ _)
  | cons now rest ih =>
      have ordered := (List.pairwise_cons.mp ordered).2
      rw [passedFrom_cons]
      rcases call_cases policy (some window) now with ⟨spent, opened⟩ | ⟨_, same, -, counted⟩
      · have spent := spent window rfl
        have later := @passedFrom_opened policy now start rest (reaches.trans spent) ordered
        simp only [opened]
        split <;> omega
      · obtain rfl := Option.some.inj same
        have later := @ih { window with count := window.count + 1 } reaches ordered
        rw [counted]
        simp only [decide_eq_false_iff_not, not_lt] at later ⊢
        split <;> omega

/-- A span never holds all the calls of two windows: if it holds the call that opens one, then
the next one opens after it. The induction is on the calls.
-/
theorem passedFrom_lt (counted : ∀ open_ ∈ window, 0 < open_.count)
    (ordered : moments.Pairwise (· ≤ ·))
    : policy.passedFrom start window moments < 2 * max policy.limit 1 := by
  induction moments generalizing window with
  | nil =>
      have none_passes : policy.passedFrom start window [] = 0 := rfl
      omega
  | cons now rest ih =>
      have later := (List.pairwise_cons.mp ordered).2
      rcases call_cases policy window now with ⟨-, opened⟩ | ⟨open_, rfl, before, counts⟩
      · simp only [passedFrom_cons, opened]
        by_cases within : start ≤ now
        · have opening := @passedFrom_opened policy now start rest within later
          split <;> omega
        · rw [if_neg (fun passes => within passes.2.1), Nat.add_zero]
          exact ih (fun _ member => Option.mem_some.mp member ▸ Nat.one_pos) later
      · by_cases reaches : start ≤ open_.resetAt
        · have reaching := @passedFrom_reaching policy start _ open_ reaches ordered
          have positive := counted open_ rfl
          omega
        · rw [passedFrom_cons, if_neg (fun passes => by omega), Nat.add_zero, counts]
          exact ih (fun _ member => Option.mem_some.mp member ▸ Nat.succ_pos _) later

end FixedWindows
