import Mathlib.Data.Int.ConditionallyCompleteOrder
import Mathlib.Data.Nat.Find
import StellarOnramp.Library.JsText

/-! The Gregorian calendar of `Date`: the date and time of a number of seconds since the start
of 1970, and back.
-/

namespace Calendar

open JsText

structure DateFields where
  year : Nat
  month : Nat
  day : Nat
  hour : Nat
  minute : Nat
  second : Nat
  deriving DecidableEq

-----------------------------------------------------------------------------------------
-- Years
-----------------------------------------------------------------------------------------

/-- The number of the first day of a year. -/
def dayFromYear (year : Int) : Int :=
  365 * (year - 1970) + (year - 1969) / 4 - (year - 1901) / 100 + (year - 1601) / 400

def isLeapYear (year : Int) : Bool := year % 4 == 0 && (year % 100 != 0 || year % 400 == 0)

def daysInYear (year : Int) : Int := if isLeapYear year then 366 else 365

theorem dayFromYear_succ (year : Int)
    : dayFromYear (year + 1) = dayFromYear year + daysInYear year := by
  simp only [dayFromYear, daysInYear, isLeapYear, Bool.and_eq_true, beq_iff_eq, Bool.or_eq_true,
    bne_iff_ne]
  split <;> omega

theorem dayFromYear_lt {early late : Int} (earlier : early < late)
    : dayFromYear early < dayFromYear late := by
  refine strictMono_int_of_lt_succ (fun year => ?_) earlier
  rw [dayFromYear_succ, daysInYear]
  split <;> omega

theorem dayFromYear_le {early late : Int} (ordered : early ≤ late)
    : dayFromYear early ≤ dayFromYear late :=
  ordered.lt_or_eq.elim (fun earlier => (dayFromYear_lt earlier).le)
    fun same => (congrArg dayFromYear same).le

theorem dayFromYear_ge (years : Nat) : 365 * (years : Int) ≤ dayFromYear (1970 + years) := by
  rw [dayFromYear]
  omega

/-- The year of a day since 1970: the last one that starts no later. -/
def yearFromDay (day : Nat) : Nat :=
  1970 + Nat.findGreatest (fun years => dayFromYear (1970 + years) ≤ day) (day / 365)

theorem yearFromDay_bounds (day : Nat)
    : dayFromYear (yearFromDay day) ≤ day ∧ (day : Int) < dayFromYear (yearFromDay day + 1) := by
  let Starts (years : Nat) : Prop := dayFromYear (1970 + years) ≤ day
  have cast : ((yearFromDay day : Nat) : Int)
      = 1970 + (Nat.findGreatest Starts (day / 365) : Nat) := by
    simp [yearFromDay, Starts]
  rw [cast]
  constructor
  · have first : Starts 0 := by simp [Starts, dayFromYear]
    exact Nat.findGreatest_spec (P := Starts) (Nat.zero_le _) first
  · by_contra later
    have next : Starts (Nat.findGreatest Starts (day / 365) + 1) := by
      have reached := not_lt.mp later
      simp only [Starts]
      push_cast
      rwa [← add_assoc]
    by_cases room : Nat.findGreatest Starts (day / 365) + 1 ≤ day / 365
    · exact Nat.findGreatest_is_greatest (Nat.lt_succ_self _) room next
    · have many : day / 365 < Nat.findGreatest Starts (day / 365) + 1 := not_le.mp room
      have late := (dayFromYear_ge (Nat.findGreatest Starts (day / 365) + 1)).trans next
      omega

-----------------------------------------------------------------------------------------
-- Months
-----------------------------------------------------------------------------------------

def monthLengths (year : Int) : List Nat :=
  [31, if isLeapYear year then 29 else 28, 31, 30, 31, 30, 31, 31, 30, 31, 30, 31]

theorem monthLengths_sum (year : Int) : ((monthLengths year).sum : Int) = daysInYear year := by
  unfold monthLengths daysInYear
  split <;> rfl

/-- The days of a year before a month; months count from zero. -/
def daysBefore (year : Int) (month : Nat) : Nat := ((monthLengths year).take month).sum

/-- The month and the day in it, both from zero, of a day within a year. -/
def placeInMonths : List Nat → Nat → Nat × Nat
  | [], day => (0, day)
  | length :: rest, day =>
      if day < length then
        (0, day)
      else
        let (month, place) := placeInMonths rest (day - length)
        (month + 1, place)

/-- The place of a day adds up to it, by induction on the months. -/
theorem placeInMonths_eq {lengths : List Nat} {day : Nat} (within : day < lengths.sum)
    : (placeInMonths lengths day).1 < lengths.length
      ∧ (lengths.take (placeInMonths lengths day).1).sum + (placeInMonths lengths day).2 = day
      ∧ ∀ bound, (∀ length ∈ lengths, length ≤ bound) → (placeInMonths lengths day).2 < bound := by
  induction lengths generalizing day with
  | nil => cases within
  | cons length rest ih =>
      unfold placeInMonths
      split
      case isTrue here =>
        refine ⟨Nat.zero_lt_succ _, by simp, fun bound every => ?_⟩
        exact Nat.lt_of_lt_of_le here (every length List.mem_cons_self)
      case isFalse later =>
        have later := not_lt.mp later
        rw [List.sum_cons] at within
        obtain ⟨month, total, small⟩ := ih (Nat.sub_lt_left_of_lt_add later within)
        refine ⟨Nat.succ_lt_succ month, ?_, fun bound every => ?_⟩
        · rw [List.take_succ_cons, List.sum_cons, Nat.add_assoc, total]
          exact Nat.add_sub_of_le later
        · exact small bound fun other member => every other (List.mem_cons_of_mem _ member)

-----------------------------------------------------------------------------------------
-- Instants
-----------------------------------------------------------------------------------------

/-- The date and time of an instant. -/
def fieldsAt (seconds : Nat) : DateFields :=
  let day := seconds / 86400
  let time := seconds % 86400
  let year := yearFromDay day
  let (month, place) := placeInMonths (monthLengths year) (day - (dayFromYear year).toNat)
  {
    year
    month := month + 1
    day := place + 1
    hour := time / 3600
    minute := time % 3600 / 60
    second := time % 60
  }

/-- The instant of a date and time; a day past the end of its month runs into the next. -/
def instantOf (fields : DateFields) : Int :=
  (dayFromYear fields.year + daysBefore fields.year (fields.month - 1) + (fields.day - 1 : Int))
      * 86400
    + fields.hour * 3600 + fields.minute * 60 + fields.second

/-- The fields are in the ranges that a date text may have. -/
structure DateFields.Valid (fields : DateFields) : Prop where
  month : 1 ≤ fields.month ∧ fields.month ≤ 12
  day : 1 ≤ fields.day ∧ fields.day ≤ 31
  hour : fields.hour ≤ 23
  minute : fields.minute ≤ 59
  second : fields.second ≤ 59

theorem dayFromYear_natural (day : Nat) : 0 ≤ dayFromYear (yearFromDay day) := by
  have first : dayFromYear 1970 = 0 := rfl
  rw [← first]
  apply dayFromYear_le
  simp [yearFromDay]

theorem fieldsAt_place (seconds : Nat)
    : seconds / 86400 - (dayFromYear (yearFromDay (seconds / 86400))).toNat
      < (monthLengths (yearFromDay (seconds / 86400))).sum := by
  obtain ⟨started, ended⟩ := yearFromDay_bounds (seconds / 86400)
  have length := monthLengths_sum (yearFromDay (seconds / 86400))
  rw [dayFromYear_succ, ← length] at ended
  have natural := dayFromYear_natural (seconds / 86400)
  omega

theorem fieldsAt_valid (seconds : Nat) : (fieldsAt seconds).Valid := by
  obtain ⟨month, -, place⟩ := placeInMonths_eq (fieldsAt_place seconds)
  have short := place 31 (by
    simp only [monthLengths]
    intro length member
    simp only [List.mem_cons, List.not_mem_nil, or_false] at member
    split at member <;> omega)
  have twelve : (monthLengths (yearFromDay (seconds / 86400))).length = 12 := rfl
  rw [twelve] at month
  constructor
  · exact ⟨Nat.succ_pos _, month⟩
  · exact ⟨Nat.succ_pos _, short⟩
  · simp only [fieldsAt]
    omega
  · simp only [fieldsAt]
    omega
  · simp only [fieldsAt]
    omega

/-- An instant is the one of its fields. -/
theorem instantOf_fieldsAt (seconds : Nat) : instantOf (fieldsAt seconds) = seconds := by
  obtain ⟨-, total, -⟩ := placeInMonths_eq (fieldsAt_place seconds)
  obtain ⟨started, -⟩ := yearFromDay_bounds (seconds / 86400)
  have natural := dayFromYear_natural (seconds / 86400)
  simp only [instantOf, fieldsAt, daysBefore, Nat.add_sub_cancel, Nat.cast_add]
  omega

/-- The last second of the year 9999 and everything before it has a year of four digits. -/
theorem fieldsAt_year_le {seconds : Nat}
    : (fieldsAt seconds).year ≤ 9999 ↔ seconds < 253402300800 := by
  obtain ⟨started, ended⟩ := yearFromDay_bounds (seconds / 86400)
  have start : dayFromYear 10000 = 2932897 := rfl
  have same : (fieldsAt seconds).year = yearFromDay (seconds / 86400) := rfl
  rw [same]
  constructor
  · intro four
    have early : dayFromYear (yearFromDay (seconds / 86400) + 1) ≤ dayFromYear 10000 :=
      dayFromYear_le (by exact_mod_cast Nat.succ_le_succ four)
    omega
  · intro early
    by_contra five
    have late : dayFromYear 10000 ≤ dayFromYear (yearFromDay (seconds / 86400)) :=
      dayFromYear_le (by exact_mod_cast Nat.lt_of_not_le five)
    omega

-----------------------------------------------------------------------------------------
-- Text
-----------------------------------------------------------------------------------------

/-- A year above 9999 gets a sign and six digits. -/
def yearText (year : Nat) : JsString :=
  if year ≤ 9999 then paddedText 4 year else js "+" ++ paddedText 6 year

/-- `toISOString` of a whole second. -/
def isoText (fields : DateFields) : JsString :=
  yearText fields.year
    ++ (js "-" ++ (paddedText 2 fields.month
    ++ (js "-" ++ (paddedText 2 fields.day
    ++ (js "T" ++ (paddedText 2 fields.hour
    ++ (js ":" ++ (paddedText 2 fields.minute
    ++ (js ":" ++ (paddedText 2 fields.second
    ++ js ".000Z"))))))))))

/-- Read exactly so many digits. -/
def readDigits (width : Nat) (text : JsString) : Option (Nat × JsString) :=
  if (text.take width).length = width ∧ (text.take width).all isDigit = true then
    some (digitsValue (text.take width), text.drop width)
  else
    none

def readUnit (unit : UInt16) : JsString → Option JsString
  | first :: rest => if first = unit then some rest else none
  | [] => none

/-- Read `(\.\d{1,9})?Z$`; whether no millisecond is left over. -/
def readTail : JsString → Option Bool
  | 90 :: [] => some true
  | 46 :: rest =>
      let digits := rest.dropLast
      if rest.getLast? = some 90 ∧ digits ≠ [] ∧ digits.length ≤ 9
          ∧ digits.all isDigit = true then
        some ((digits.take 3).all (fun digit => digit == 48))
      else
        none
  | _ => none

/-- Read `\d{4}-\d{2}-\d{2}T\d{2}:\d{2}:\d{2}` and the tail. -/
def readDateTime (text : JsString) : Option (DateFields × Bool) := do
  let (year, text) ← readDigits 4 text
  let text ← readUnit 45 text
  let (month, text) ← readDigits 2 text
  let text ← readUnit 45 text
  let (day, text) ← readDigits 2 text
  let text ← readUnit 84 text
  let (hour, text) ← readDigits 2 text
  let text ← readUnit 58 text
  let (minute, text) ← readDigits 2 text
  let text ← readUnit 58 text
  let (second, text) ← readDigits 2 text
  let whole ← readTail text
  some ({ year, month, day, hour, minute, second }, whole)

/-- The instant of a date text in seconds, rounded down. Midnight may be the hour 24 of the day
before.
-/
def dateParse (fields : DateFields) (whole : Bool) : Option Int :=
  if 1 ≤ fields.month ∧ fields.month ≤ 12 ∧ 1 ≤ fields.day ∧ fields.day ≤ 31
      ∧ fields.minute ≤ 59 ∧ fields.second ≤ 59
      ∧ (fields.hour ≤ 23
        ∨ fields.hour = 24 ∧ fields.minute = 0 ∧ fields.second = 0 ∧ whole = true) then
    some (instantOf fields)
  else
    none

theorem readUnit_cons (unit : UInt16) (rest : JsString)
    : readUnit unit (unit :: rest) = some rest :=
  if_pos rfl

theorem readTail_utc : readTail [90] = some true := rfl

theorem readDigits_paddedText (width : Nat) {value : Nat} (fits : value < 10 ^ width)
    (rest : JsString)
    : readDigits width (paddedText width value ++ rest) = some (value, rest) := by
  have digits : (paddedText width value ++ rest).take width = paddedText width value :=
    List.take_left' (paddedText_length width value)
  have after : (paddedText width value ++ rest).drop width = rest :=
    List.drop_left' (paddedText_length width value)
  rw [readDigits, digits, after, if_pos ⟨paddedText_length width value, paddedText_all width value⟩,
    digitsValue_paddedText fits]

/-- The first nineteen units of a date with a year of four digits. -/
theorem isoText_take {fields : DateFields} (four : fields.year ≤ 9999)
    : (isoText fields).take 19 ++ js "Z"
      = paddedText 4 fields.year
          ++ (45 :: (paddedText 2 fields.month
          ++ (45 :: (paddedText 2 fields.day
          ++ (84 :: (paddedText 2 fields.hour
          ++ (58 :: (paddedText 2 fields.minute
          ++ (58 :: (paddedText 2 fields.second ++ [90])))))))))) := by
  rw [isoText, yearText, if_pos four]
  rfl

/-- A written date that has its first nineteen units reads back. -/
theorem readDateTime_isoText {fields : DateFields} (valid : fields.Valid)
    (four : fields.year ≤ 9999)
    : readDateTime ((isoText fields).take 19 ++ js "Z") = some (fields, true) := by
  obtain ⟨⟨-, month⟩, ⟨-, day⟩, hour, minute, second⟩ := valid
  rw [isoText_take four]
  simp only [readDateTime, readUnit_cons, readTail_utc, Option.bind_eq_bind, Option.bind_some,
    readDigits_paddedText 4 (Nat.lt_succ_of_le four),
    readDigits_paddedText 2 (Nat.lt_of_le_of_lt month (by decide)),
    readDigits_paddedText 2 (Nat.lt_of_le_of_lt day (by decide)),
    readDigits_paddedText 2 (Nat.lt_of_le_of_lt hour (by decide)),
    readDigits_paddedText 2 (Nat.lt_of_le_of_lt minute (by decide)),
    readDigits_paddedText 2 (Nat.lt_of_le_of_lt second (by decide))]

/-- A year of five digits leaves no text that reads back. -/
theorem readDateTime_late {fields : DateFields} (five : ¬ fields.year ≤ 9999)
    : readDateTime ((isoText fields).take 19 ++ js "Z") = none := by
  rw [isoText, yearText, if_neg five]
  rfl

theorem dateParse_eq {fields : DateFields} (valid : fields.Valid) (whole : Bool)
    : dateParse fields whole = some (instantOf fields) := by
  obtain ⟨⟨january, december⟩, ⟨first, last⟩, hour, minute, second⟩ := valid
  exact if_pos ⟨january, december, first, last, minute, second, Or.inl hour⟩

end Calendar
