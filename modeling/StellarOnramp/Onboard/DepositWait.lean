import StellarOnramp.Onboard.OnrampRules

/-! The wait for a deposit ends. Where the clock moves at least as far as the pauses between the
polls, the anchor is asked fifty times at most, and a wait that is given up has lasted its time.
-/

namespace StellarOnramp.Onboard

open Dialogues Dialogue JsText

variable {Fault : Type}

-----------------------------------------------------------------------------------------
-- The clock and the polls
-----------------------------------------------------------------------------------------

/-- What the clock read, where it was asked. -/
def reading : Exchange (onrampOutside Fault) → Option Int
  | ⟨.now, .ok time⟩ => some time
  | _ => none

def readings (exchanges : Exchanges Fault) : List Int := exchanges.filterMap reading

def OnrampAsk.polls : OnrampAsk → Bool
  | .fetch (.transaction _) _ => true
  | _ => false

def polls (exchanges : Exchanges Fault) : Nat :=
  exchanges.countP fun exchange => exchange.question.polls

/-- The clock reads no less than the limit, and a pause later from reading to reading. -/
def PacedFrom : Int → List Int → Prop
  | _, [] => True
  | limit, time :: later => limit ≤ time ∧ PacedFrom (time + 3000) later

/-- The first reading is the start of the wait, and the pauses stand between the others. -/
def Paced : List Int → Prop
  | [] => True
  | start :: times => PacedFrom start times

theorem PacedFrom.left {limit : Int} {times later : List Int}
    (paced : PacedFrom limit (times ++ later))
    : PacedFrom limit times := by
  induction times generalizing limit with
  | nil => trivial
  | cons time rest ih => exact ⟨paced.1, ih paced.2⟩

theorem Paced.left {times later : List Int} (paced : Paced (times ++ later)) : Paced times := by
  cases times with
  | nil => trivial
  | cons start rest => exact PacedFrom.left paced

/-- Before a deadline there is room for one reading a pause. -/
theorem PacedFrom.room {limit deadline : Int} {times : List Int} (paced : PacedFrom limit times)
    (order : limit ≤ deadline) (early : ∀ time ∈ times, time < deadline)
    : limit + 3000 * times.length < deadline + 3000 := by
  induction times generalizing limit with
  | nil => simp only [List.length_nil]; omega
  | cons time later ih =>
      have first := early time List.mem_cons_self
      cases later with
      | nil =>
          have := paced.1
          simp only [List.length_cons, List.length_nil]
          omega
      | cons next rest =>
          have second := early next (List.mem_cons_of_mem _ List.mem_cons_self)
          have room :=
            ih paced.2 (paced.2.1.trans second.le)
              fun other member => early other (List.mem_cons_of_mem _ member)
          have := paced.1
          simp only [List.length_cons] at room ⊢
          omega

/-- So many rounds have begun, all of them before the deadline. -/
structure Waiting (start : Int) (exchanges : Exchanges Fault) (rounds : Nat) : Prop where
  begun
    : ∃ times,
        readings exchanges = start :: times
        ∧ times.length = rounds
        ∧ ∀ time ∈ times, time < start + depositTimeoutMs

/-- With readings that far apart, fifty rounds pass the deadline. -/
theorem Waiting.rounds_le {start : Int} {exchanges : Exchanges Fault} {rounds : Nat}
    (waiting : Waiting start exchanges rounds) (paced : Paced (readings exchanges))
    : rounds ≤ 50 := by
  obtain ⟨times, read, rfl, early⟩ := waiting.begun
  rw [read] at paced
  have room := PacedFrom.room paced (by unfold depositTimeoutMs; omega) early
  unfold depositTimeoutMs at room
  omega

-----------------------------------------------------------------------------------------
-- One question more
-----------------------------------------------------------------------------------------

/-- With a question the polls stay in their bound, and the model's rounds are not used up. -/
def Patient (asked : Exchanges Fault) (question : OnrampAsk) : Prop :=
  Paced (readings asked) →
    polls asked + (if question.polls then 1 else 0) ≤ 50 ∧ question ≠ .unbounded

theorem readings_append (before : Exchanges Fault) (exchange : Exchange (onrampOutside Fault))
    : readings (before ++ [exchange]) = readings before ++ (reading exchange).toList := by
  unfold readings
  rw [List.filterMap_append]
  cases found : reading exchange <;> simp [found]

theorem polls_append (before : Exchanges Fault) (exchange : Exchange (onrampOutside Fault))
    : polls (before ++ [exchange]) =
        polls before + (if exchange.question.polls then 1 else 0) := by
  unfold polls
  rw [List.countP_append, List.countP_singleton]

/-- A patient question is at most the fiftieth poll. -/
theorem Patient.polls_le {asked : Exchanges Fault} {question : OnrampAsk}
    (patient : Patient asked question) (answer : Except Fault question.Reply)
    (paced : Paced (readings (asked ++ [⟨question, answer⟩])))
    : polls (asked ++ [⟨question, answer⟩]) ≤ 50 := by
  rw [readings_append] at paced
  rw [polls_append]
  exact (patient paced.left).1

section

variable {before after : Exchanges Fault} {start : Int} {rounds : Nat}

/-- A round begins with a reading before the deadline. -/
theorem Waiting.round {time : Int} (waiting : Waiting start before rounds)
    (asked : Extends before .now time after) (early : time < start + depositTimeoutMs)
    : Waiting start after (rounds + 1) := by
  obtain ⟨times, read, rfl, early_all⟩ := waiting.begun
  refine ⟨times ++ [time], ?_, by simp, ?_⟩
  · rw [asked.appended, readings_append, read]
    rfl
  · intro other member
    rcases List.mem_append.mp member with earlier | last
    · exact early_all other earlier
    · rwa [List.mem_singleton.mp last]

/-- What is no reading leaves the rounds as they are. -/
theorem Waiting.other {question : OnrampAsk} {reply : question.Reply}
    (waiting : Waiting start before rounds) (asked : Extends before question reply after)
    (unread : reading (⟨question, Except.ok reply⟩ : Exchange (onrampOutside Fault)) = none)
    : Waiting start after rounds := by
  obtain ⟨times, read, rest⟩ := waiting.begun
  refine ⟨times, ?_, rest⟩
  rw [asked.appended, readings_append, unread, read]
  exact List.append_nil _

end

-----------------------------------------------------------------------------------------
-- The wait
-----------------------------------------------------------------------------------------

/-- What stands behind a wait that has ended: the anchor has answered a poll with a completed
transaction, or the time is over.
-/
def WaitEnded (library : OnrampLibrary Fault) (token id : JsString) (exchanges : Exchanges Fault)
    : Json.Value × Bool → Prop
  | (tx, true) =>
      Json.text tx (js "status") = some (js "completed")
      ∧ ∃ depositId body,
          library.encodeURIComponent id = .ok depositId
          ∧ Answered exchanges (.transaction depositId) (some token) body
          ∧ tx = memberOr (body.get (js "transaction")) body
  | (_, false) =>
      ∃ start times time,
        readings exchanges = start :: times ∧ time ∈ times ∧ start + depositTimeoutMs ≤ time

/-- Round by round, by induction on the rounds the model has left. -/
theorem patient_pollDeposit (library : OnrampLibrary Fault) (config : AnchorConfig)
    (token id : JsString) {start : Int} {fuel rounds : Nat} {before : Exchanges Fault}
    (waiting : Waiting start before rounds) (polled : polls before = rounds)
    (enough : 50 < fuel + rounds) (last : Json.Value)
    : (pollDeposit library config token id (start + depositTimeoutMs) fuel last).Keeps Patient
        (WaitEnded library token id) before := by
  induction fuel generalizing before rounds last with
  | zero =>
      refine keeps_bind (keeps_asking (fun paced => ?_) fun _ none => none.elim)
      have := waiting.rounds_le paced
      omega
  | succ fuel ih =>
      refine keeps_bind (keeps_asking ?_ ?_)
      · intro paced
        exact ⟨polled.trans_le (waiting.rounds_le paced), by rintro ⟨⟩⟩
      intro timed (time : Int) asked
      have counted : polls timed = rounds := by
        rw [asked.appended, polls_append]
        exact polled
      split
      case isFalse late =>
        obtain ⟨times, read, -⟩ := waiting.begun
        refine ⟨start, times ++ [time], time, ?_, by simp, not_lt.mp late⟩
        rw [asked.appended, readings_append, read]
        rfl
      case isTrue early =>
        have begun := waiting.round asked early
        refine keeps_bind (keeps_mapError fun depositId encoded => ?_)
        refine keeps_bind (keeps_fetchJson ?_ ?_)
        · intro paced
          refine ⟨?_, by rintro ⟨⟩⟩
          rw [counted]
          exact begun.rounds_le paced
        intro answered status body polling
        have counted : polls answered = rounds + 1 := by
          rw [polling.appended, polls_append, counted]
          rfl
        replace begun := begun.other polling rfl
        dsimp only
        split
        case isTrue completed =>
          exact ⟨completed, depositId, body, encoded, ⟨status, polling.replied⟩, rfl⟩
        case isFalse =>
          split
          case isTrue => trivial
          case isFalse =>
            refine keeps_bind (keeps_asking ?_ ?_)
            · intro paced
              exact ⟨counted.trans_le (begun.rounds_le paced), by rintro ⟨⟩⟩
            intro rested _ slept
            refine ih (begun.other slept rfl) ?_ (by omega) _
            rw [slept.appended, polls_append, counted]
            rfl

/-- The deadline is set by the first reading. -/
theorem patient_waitForDeposit (library : OnrampLibrary Fault) (config : AnchorConfig)
    (token id : JsString) {fuel : Nat} (enough : 50 < fuel)
    : (waitForDeposit library config fuel token id).Keeps Patient (WaitEnded library token id)
        [] := by
  refine keeps_bind (keeps_asking ?_ ?_)
  · intro paced
    exact ⟨Nat.zero_le _, by rintro ⟨⟩⟩
  intro started start asked
  obtain rfl := asked.appended
  exact patient_pollDeposit library config token id
    ⟨[], rfl, rfl, fun _ member => absurd member List.not_mem_nil⟩ rfl enough _

/-- Whatever the anchor answers, on a clock that the pauses move the wait polls fifty times at
most and never outlasts the rounds of the model; it ends with a transaction that the anchor has
completed, or when its time is over.
-/
theorem waitForDeposit_polls (library : OnrampLibrary Fault) (config : AnchorConfig) (fuel : Nat)
    (token id : JsString) (exchanges : Exchanges Fault) (rest : Talk Fault (Json.Value × Bool))
    (enough : 50 < fuel)
    (reaches : (waitForDeposit library config fuel token id).Reaches exchanges rest)
    (paced : Paced (readings exchanges))
    : polls exchanges ≤ 50
      ∧ (∀ next, rest ≠ .ask .unbounded next)
      ∧ ∀ ended, rest = .done ended → WaitEnded library token id exchanges ended := by
  have keeps := patient_waitForDeposit library config token id enough
  refine ⟨?_, ?_, ?_⟩
  · refine keeps.always (fun asked => Paced (readings asked) → polls asked ≤ 50) ?_
      (fun _ => Nat.zero_le _) reaches paced
    exact fun asked question patient answer => patient.polls_le answer
  · rintro next rfl
    exact (keeps.asks reaches paced).2 rfl
  · rintro ended rfl
    exact keeps.ended reaches

/-- One round without an end, and the clock once more. -/
def sampleWait : Exchanges Unit :=
  [
    ⟨.now, .ok (0 : Int)⟩,
    ⟨.now, .ok (0 : Int)⟩,
    ⟨.fetch (.transaction (js "deposit-1")) (some (js "jwt")),
      .ok { ok := true, status := 200, body := some (.object []) }⟩,
    ⟨.sleep 3000, .ok ()⟩,
    ⟨.now, .ok (3000 : Int)⟩
  ]

theorem waitForDeposit_polls_sample : polls sampleWait ≤ 50 :=
  (waitForDeposit_polls sampleReaders sampleAnchor 51 (js "jwt") (js "deposit-1") sampleWait _
    (by decide)
    (.answered (.answered (.answered (.answered (.answered (.here _))))))
    ⟨by decide, by decide, trivial⟩).1

end StellarOnramp.Onboard
