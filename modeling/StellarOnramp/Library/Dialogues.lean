import Mathlib.Data.List.Basic

/-! Programs that ask an outside and go on with what it answers. Nothing is assumed about the
answers. A rule says which questions a program may ask after what has been exchanged so far, and
is kept by a program when it is kept after every answer. A fault is an answer like any other.
Questions may have places, and then come once and in the order of their places.
-/

namespace Dialogues

/-- What a program may ask, and what an answer is. -/
structure Outside where
  Ask : Type
  Answer : Ask → Type

/-- A program at a moment: it has ended, or it waits for an answer. -/
inductive Dialogue (outside : Outside) (Failure Value : Type) where
  | failed (failure : Failure)
  | done (value : Value)
  | ask (question : outside.Ask)
      (next : outside.Answer question → Dialogue outside Failure Value)

/-- A question with its answer. -/
structure Exchange (outside : Outside) where
  question : outside.Ask
  answer : outside.Answer question

variable {outside : Outside} {Failure Value Result : Type}

namespace Dialogue

def bind (first : Dialogue outside Failure Value)
    (next : Value → Dialogue outside Failure Result)
    : Dialogue outside Failure Result :=
  match first with
  | failed failure => failed failure
  | done value => next value
  | ask question onward => ask question fun answer => (onward answer).bind next

instance : Monad (Dialogue outside Failure) where
  pure := done
  bind := bind

/-- A computation of its own, within the program. -/
def ofExcept : Except Failure Value → Dialogue outside Failure Value
  | .error failure => failed failure
  | .ok value => done value

/-- The rest of the program after some exchanges. -/
inductive Reaches : Dialogue outside Failure Value → List (Exchange outside)
    → Dialogue outside Failure Value → Prop where
  | here (dialogue : Dialogue outside Failure Value) : Reaches dialogue [] dialogue
  | answered {question : outside.Ask}
      {next : outside.Answer question → Dialogue outside Failure Value}
      {answer : outside.Answer question} {exchanges : List (Exchange outside)}
      {rest : Dialogue outside Failure Value} (later : Reaches (next answer) exchanges rest)
      : Reaches (ask question next) (⟨question, answer⟩ :: exchanges) rest

/-- The program asks by the rule, and where it ends with a value, the exchanges bear it out. -/
def Keeps (rule : List (Exchange outside) → outside.Ask → Prop)
    (borneOut : List (Exchange outside) → Value → Prop)
    : List (Exchange outside) → Dialogue outside Failure Value → Prop
  | _, failed _ => True
  | before, done value => borneOut before value
  | before, ask question next =>
      rule before question
      ∧ ∀ answer, (next answer).Keeps rule borneOut (before ++ [⟨question, answer⟩])

section

variable {rule : List (Exchange outside) → outside.Ask → Prop}
  {borneOut weaker : List (Exchange outside) → Value → Prop}
  {ends : List (Exchange outside) → Result → Prop} {before : List (Exchange outside)}

/-- The first part has to bear out what the second starts from, by induction on the first. -/
theorem keeps_bind {first : Dialogue outside Failure Value}
    {next : Value → Dialogue outside Failure Result}
    (keeps : first.Keeps rule (fun after value => (next value).Keeps rule ends after) before)
    : (first >>= next).Keeps rule ends before := by
  induction first generalizing before with
  | failed failure => trivial
  | done value => exact keeps
  | ask question onward ih => exact ⟨keeps.1, fun answer => ih answer (keeps.2 answer)⟩

theorem Keeps.weaken {dialogue : Dialogue outside Failure Value}
    (keeps : dialogue.Keeps rule borneOut before)
    (implies : ∀ after value, borneOut after value → weaker after value)
    : dialogue.Keeps rule weaker before := by
  induction dialogue generalizing before with
  | failed failure => trivial
  | done value => exact implies before value keeps
  | ask question onward ih => exact ⟨keeps.1, fun answer => ih answer (keeps.2 answer)⟩

theorem keeps_ofExcept {outcome : Except Failure Value}
    (succeeds : ∀ value, outcome = .ok value → borneOut before value)
    : (ofExcept outcome : Dialogue outside Failure Value).Keeps rule borneOut before := by
  cases outcome with
  | error failure => trivial
  | ok value => exact succeeds value rfl

/-- A computation of its own, whose error is made a failure. -/
theorem keeps_mapError {Error : Type} {thrown : Error → Failure} {outcome : Except Error Value}
    (succeeds : ∀ value, outcome = .ok value → borneOut before value)
    : (ofExcept (outcome.mapError thrown) : Dialogue outside Failure Value).Keeps rule borneOut
        before := by
  refine keeps_ofExcept fun value mapped => succeeds value ?_
  cases outcome with
  | error error => cases mapped
  | ok found =>
      cases mapped
      rfl

/-- What a program keeps, it still keeps wherever it has got to. -/
theorem Keeps.reached {dialogue rest : Dialogue outside Failure Value}
    {exchanges : List (Exchange outside)} (keeps : dialogue.Keeps rule borneOut before)
    (reaches : dialogue.Reaches exchanges rest)
    : rest.Keeps rule borneOut (before ++ exchanges) := by
  induction reaches generalizing before with
  | here dialogue => rwa [List.append_nil]
  | answered later ih =>
      have onward := ih (keeps.2 _)
      rwa [List.append_assoc, List.singleton_append] at onward

/-- Every question of every run is asked by the rule. -/
theorem Keeps.asks {dialogue : Dialogue outside Failure Value}
    (keeps : dialogue.Keeps rule borneOut []) {exchanges : List (Exchange outside)}
    {question : outside.Ask} {next : outside.Answer question → Dialogue outside Failure Value}
    (reaches : dialogue.Reaches exchanges (ask question next))
    : rule exchanges question :=
  (keeps.reached reaches).1

/-- The value of every run is borne out. -/
theorem Keeps.ended {dialogue : Dialogue outside Failure Value}
    (keeps : dialogue.Keeps rule borneOut []) {exchanges : List (Exchange outside)}
    {value : Value} (reaches : dialogue.Reaches exchanges (done value))
    : borneOut exchanges value :=
  keeps.reached reaches

/-- What every question leaves standing, however it is answered, always stands. -/
theorem Keeps.always (holds : List (Exchange outside) → Prop)
    {dialogue rest : Dialogue outside Failure Value} {exchanges : List (Exchange outside)}
    (keeps : dialogue.Keeps rule borneOut before)
    (stands
      : ∀ asked question,
          rule asked question → ∀ answer, holds (asked ++ [⟨question, answer⟩]))
    (start : holds before) (reaches : dialogue.Reaches exchanges rest)
    : holds (before ++ exchanges) := by
  induction reaches generalizing before with
  | here dialogue => rwa [List.append_nil]
  | answered later ih =>
      have onward := ih (keeps.2 _) (stands before _ keeps.1 _)
      rwa [List.append_assoc, List.singleton_append] at onward

end

/-- A whole run against an outside whose answers do not depend on what came before. -/
def play (answer : ∀ question, outside.Answer question)
    : Dialogue outside Failure Value → List (Exchange outside) × Dialogue outside Failure Value
  | failed failure => ([], failed failure)
  | done value => ([], done value)
  | ask question next =>
      let later := (next (answer question)).play answer
      (⟨question, answer question⟩ :: later.1, later.2)

theorem reaches_play (answer : ∀ question, outside.Answer question)
    (dialogue : Dialogue outside Failure Value)
    : dialogue.Reaches (dialogue.play answer).1 (dialogue.play answer).2 := by
  induction dialogue with
  | failed failure => exact .here _
  | done value => exact .here _
  | ask question next ih => exact .answered (ih (answer question))

/-- What is left of the program after so many answers of a run. -/
def leftAfter (answer : ∀ question, outside.Answer question)
    : Nat → Dialogue outside Failure Value → Dialogue outside Failure Value
  | count + 1, ask question next => (next (answer question)).leftAfter answer count
  | _, dialogue => dialogue

theorem reaches_leftAfter (answer : ∀ question, outside.Answer question) (count : Nat)
    (dialogue : Dialogue outside Failure Value)
    : dialogue.Reaches ((dialogue.play answer).1.take count)
        (dialogue.leftAfter answer count) := by
  induction count generalizing dialogue with
  | zero => cases dialogue <;> exact .here _
  | succ count ih =>
      cases dialogue with
      | failed failure => exact .here _
      | done value => exact .here _
      | ask question next => exact .answered (ih (next (answer question)))

def question? : Dialogue outside Failure Value → Option outside.Ask
  | ask question _ => some question
  | failed _ | done _ => none

theorem reaches_ask_leftAfter (answer : ∀ question, outside.Answer question) (count : Nat)
    {dialogue : Dialogue outside Failure Value} {question : outside.Ask}
    (asked : (dialogue.leftAfter answer count).question? = some question)
    : ∃ next,
        dialogue.Reaches ((dialogue.play answer).1.take count) (ask question next) := by
  have reaches := reaches_leftAfter answer count dialogue
  cases rest : dialogue.leftAfter answer count with
  | failed failure => cases (congrArg question? rest).symm.trans asked
  | done value => cases (congrArg question? rest).symm.trans asked
  | ask found next =>
      obtain rfl := Option.some.inj ((congrArg question? rest).symm.trans asked)
      rw [rest] at reaches
      exact ⟨next, reaches⟩

def value? : Dialogue outside Failure Value → Option Value
  | done value => some value
  | failed _ | ask _ _ => none

theorem reaches_done_play (answer : ∀ question, outside.Answer question)
    {dialogue : Dialogue outside Failure Value} {value : Value}
    (ended : (dialogue.play answer).2.value? = some value)
    : dialogue.Reaches (dialogue.play answer).1 (done value) := by
  have reaches := reaches_play answer dialogue
  cases rest : (dialogue.play answer).2 with
  | failed failure => cases (congrArg value? rest).symm.trans ended
  | done found =>
      obtain rfl := Option.some.inj ((congrArg value? rest).symm.trans ended)
      rwa [rest] at reaches
  | ask question next => cases (congrArg value? rest).symm.trans ended

end Dialogue

-----------------------------------------------------------------------------------------
-- Questions that may fail
-----------------------------------------------------------------------------------------

variable {Fault Ask : Type} {Reply : Ask → Type}

/-- An outside that answers each question with a reply or with a fault. -/
abbrev faulty (Fault Ask : Type) (Reply : Ask → Type) : Outside where
  Ask
  Answer question := Except Fault (Reply question)

/-- The question was answered with the reply. -/
def Replied (before : List (Exchange (faulty Fault Ask Reply))) (question : Ask)
    (reply : Reply question)
    : Prop :=
  ⟨question, Except.ok reply⟩ ∈ before

/-- No question with a place at the limit or behind it has been asked. -/
def Below (stage : Ask → Option Nat) (limit : Nat)
    (before : List (Exchange (faulty Fault Ask Reply)))
    : Prop :=
  ∀ exchange ∈ before, ∀ place ∈ stage exchange.question, place < limit

/-- A question that is allowed, and that comes once and in the order of the places. -/
structure InOrder (stage : Ask → Option Nat)
    (allows : List (Exchange (faulty Fault Ask Reply)) → Ask → Prop)
    (before : List (Exchange (faulty Fault Ask Reply))) (question : Ask)
    : Prop where
  allowed : allows before question
  ordered : ∀ place ∈ stage question, Below stage place before

/-- The exchanges after one more reply. -/
structure Extends (before : List (Exchange (faulty Fault Ask Reply))) (question : Ask)
    (reply : Reply question) (after : List (Exchange (faulty Fault Ask Reply)))
    : Prop where
  appended : after = before ++ [⟨question, Except.ok reply⟩]

section

variable {stage : Ask → Option Nat} {before after : List (Exchange (faulty Fault Ask Reply))}
  {question : Ask} {reply : Reply question} {limit : Nat}

theorem Extends.kept (asked : Extends before question reply after) : before ⊆ after := by
  rw [asked.appended]
  exact List.subset_append_left _ _

theorem Extends.replied (asked : Extends before question reply after)
    : Replied after question reply := by
  rw [asked.appended]
  exact List.mem_append_right _ List.mem_cons_self

theorem below_nil : Below stage limit ([] : List (Exchange (faulty Fault Ask Reply))) :=
  fun _ member => absurd member List.not_mem_nil

/-- Behind the last place asked, the limit is free to move on. -/
theorem Below.mono {higher : Nat} (below : Below stage limit before) (order : limit ≤ higher)
    : Below stage higher before :=
  fun exchange member place placed =>
    Nat.lt_of_lt_of_le (below exchange member place placed) order

theorem Below.append (below : Below stage limit before)
    (placed : ∀ place ∈ stage question, place < limit) (answer : Except Fault (Reply question))
    : Below stage limit (before ++ [⟨question, answer⟩]) := by
  intro exchange member
  rcases List.mem_append.mp member with earlier | last
  · exact below exchange earlier
  · rw [List.mem_singleton.mp last]
    exact placed

/-- Behind a question that has a place. -/
theorem Extends.next {place : Nat} (asked : Extends before question reply after)
    (placed : stage question = some place) (below : Below stage place before)
    : Below stage (place + 1) after := by
  rw [asked.appended]
  refine (below.mono (Nat.le_succ place)).append (fun other listed => ?_) _
  rw [placed] at listed
  cases listed
  exact Nat.lt_succ_self place

/-- Behind a question that has none. -/
theorem Extends.same (asked : Extends before question reply after)
    (placed : stage question = none) (below : Below stage limit before)
    : Below stage limit after := by
  rw [asked.appended]
  refine below.append (fun other listed => ?_) _
  rw [placed] at listed
  cases listed

variable {allows : List (Exchange (faulty Fault Ask Reply)) → Ask → Prop}

theorem InOrder.staged {place : Nat} (allowed : allows before question)
    (placed : stage question = some place) (below : Below stage place before)
    : InOrder stage allows before question where
  allowed
  ordered := by
    intro other listed
    rw [placed] at listed
    cases listed
    exact below

theorem InOrder.unstaged (allowed : allows before question) (placed : stage question = none)
    : InOrder stage allows before question where
  allowed
  ordered := by
    intro other listed
    rw [placed] at listed
    cases listed

end

namespace Dialogue

variable {rule : List (Exchange (faulty Fault Ask Reply)) → Ask → Prop}
  {before : List (Exchange (faulty Fault Ask Reply))} {question : Ask}

/-- One question, whose fault is made a failure. -/
def asking (thrown : Fault → Failure) (question : Ask)
    : Dialogue (faulty Fault Ask Reply) Failure (Reply question) :=
  ask question fun answer => ofExcept (answer.mapError thrown)

/-- Only the replies go on. -/
theorem keeps_asking {thrown : Fault → Failure}
    {borneOut : List (Exchange (faulty Fault Ask Reply)) → Reply question → Prop}
    (asks : rule before question)
    (succeeds : ∀ after reply, Extends before question reply after → borneOut after reply)
    : (asking thrown question : Dialogue _ Failure _).Keeps rule borneOut before := by
  refine ⟨asks, fun answer => ?_⟩
  cases answer with
  | error fault => trivial
  | ok reply => exact succeeds _ reply ⟨rfl⟩

end Dialogue

end Dialogues
