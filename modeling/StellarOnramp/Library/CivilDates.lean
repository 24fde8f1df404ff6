import Mathlib.Algebra.Order.BigOperators.Group.List
import Mathlib.Data.Prod.Lex
import StellarOnramp.Library.Calendar

/-! The dates of the proleptic Gregorian calendar and the days they name, before 1970 as well as
after it. Dates are ordered lexicographically, which is the order of their days, and every day
has exactly one real date.
-/

namespace CivilDates

open Calendar JsText

-----------------------------------------------------------------------------------------
-- Dates
-----------------------------------------------------------------------------------------

/-- A date; months and days count from one. -/
@[ext]
structure CivilDate where
  year : Int
  month : Nat
  day : Nat
  deriving DecidableEq

/-- The number of days of a month. -/
def monthLength (year : Int) (month : Nat) : Nat :=
  ((monthLengths year)[month - 1]?).getD 0

/-- The calendar has the date. -/
structure CivilDate.IsReal (date : CivilDate) : Prop where
  month : 1 ≤ date.month ∧ date.month ≤ 12
  day : 1 ≤ date.day ∧ date.day ≤ monthLength date.year date.month

/-- The year first, then the month, then the day. -/
def CivilDate.key (date : CivilDate) : Int ×ₗ Nat ×ₗ Nat :=
  toLex (date.year, toLex (date.month, date.day))

theorem CivilDate.key_injective : Function.Injective CivilDate.key := by
  intro left right same
  have parts := Prod.mk.inj (toLex.injective same)
  have inner := Prod.mk.inj (toLex.injective parts.2)
  exact CivilDate.ext parts.1 inner.1 inner.2

instance : LinearOrder CivilDate := LinearOrder.lift' CivilDate.key CivilDate.key_injective

theorem CivilDate.lt_iff {left right : CivilDate}
    : left < right
      ↔ left.year < right.year
        ∨ left.year = right.year
          ∧ (left.month < right.month ∨ left.month = right.month ∧ left.day < right.day) := by
  change left.key < right.key ↔ _
  rw [CivilDate.key, CivilDate.key, Prod.Lex.toLex_lt_toLex, Prod.Lex.toLex_lt_toLex]

/-- The same day of the same month, so many years later. -/
def CivilDate.plusYears (date : CivilDate) (years : Int) : CivilDate :=
  { date with year := date.year + years }

theorem monthLength_le (year : Int) (month : Nat) : monthLength year month ≤ 31 := by
  rw [monthLength]
  cases held : (monthLengths year)[month - 1]? with
  | none => exact Nat.zero_le 31
  | some length =>
      have member := List.mem_of_getElem? held
      simp only [monthLengths, List.mem_cons, List.not_mem_nil, or_false] at member
      rw [Option.getD_some]
      split at member <;> omega

-----------------------------------------------------------------------------------------
-- Days
-----------------------------------------------------------------------------------------

/-- The number of the day of a date, counted from the first of 1970. -/
def CivilDate.dayNumber (date : CivilDate) : Int :=
  dayFromYear date.year + daysBefore date.year (date.month - 1) + ((date.day : Int) - 1)

/-- The days of 400 years. -/
def eraDays : Int := 146097

theorem dayFromYear_era (eras year : Int)
    : dayFromYear (400 * eras + year) = eraDays * eras + dayFromYear year := by
  simp only [dayFromYear, eraDays]
  omega

/-- The year of a day, found within its era. -/
def yearOfDay (day : Int) : Int := 400 * (day / eraDays) + yearFromDay (day % eraDays).toNat

theorem yearOfDay_bounds (day : Int)
    : dayFromYear (yearOfDay day) ≤ day ∧ day < dayFromYear (yearOfDay day + 1) := by
  obtain ⟨started, ended⟩ := yearFromDay_bounds (day % eraDays).toNat
  have place : ((day % eraDays).toNat : Int) = day % eraDays :=
    Int.toNat_of_nonneg (Int.emod_nonneg day (by decide))
  have split := Int.mul_ediv_add_emod day eraDays
  rw [place] at started ended
  rw [yearOfDay, add_assoc, dayFromYear_era, dayFromYear_era]
  omega

/-- The date of a day. -/
def dateOfDay (day : Int) : CivilDate :=
  let year := yearOfDay day
  let (month, place) := placeInMonths (monthLengths year) (day - dayFromYear year).toNat
  { year, month := month + 1, day := place + 1 }

/-- The place of a day is inside its month, by induction on the months. -/
theorem placeInMonths_lt {lengths : List Nat} {day : Nat} (within : day < lengths.sum)
    : (placeInMonths lengths day).2 < (lengths[(placeInMonths lengths day).1]?).getD 0 := by
  induction lengths generalizing day with
  | nil => cases within
  | cons length rest ih =>
      unfold placeInMonths
      split
      case isTrue here => exact here
      case isFalse later =>
        rw [List.sum_cons] at within
        exact ih (Nat.sub_lt_left_of_lt_add (not_lt.mp later) within)

theorem dateOfDay_within (day : Int)
    : (day - dayFromYear (yearOfDay day)).toNat < (monthLengths (yearOfDay day)).sum := by
  obtain ⟨started, ended⟩ := yearOfDay_bounds day
  have length := monthLengths_sum (yearOfDay day)
  rw [dayFromYear_succ, ← length] at ended
  omega

/-- The date of a day is real. -/
theorem dateOfDay_isReal (day : Int) : (dateOfDay day).IsReal := by
  obtain ⟨month, -, -⟩ := placeInMonths_eq (dateOfDay_within day)
  have place := placeInMonths_lt (dateOfDay_within day)
  exact { month := ⟨Nat.succ_pos _, month⟩, day := ⟨Nat.succ_pos _, place⟩ }

/-- The day of the date of a day is that day. -/
theorem dayNumber_dateOfDay (day : Int) : (dateOfDay day).dayNumber = day := by
  obtain ⟨-, total, -⟩ := placeInMonths_eq (dateOfDay_within day)
  obtain ⟨started, -⟩ := yearOfDay_bounds day
  simp only [CivilDate.dayNumber, dateOfDay, daysBefore, Nat.add_sub_cancel, Nat.cast_add]
  omega

-----------------------------------------------------------------------------------------
-- The order of dates is the order of their days
-----------------------------------------------------------------------------------------

theorem daysBefore_succ (year : Int) {month : Nat} (inside : 1 ≤ month ∧ month ≤ 12)
    : daysBefore year month = daysBefore year (month - 1) + monthLength year month := by
  obtain ⟨index, rfl⟩ := Nat.exists_eq_add_of_le' inside.1
  have bound : index < (monthLengths year).length := inside.2
  rw [Nat.add_sub_cancel, daysBefore, daysBefore, monthLength, Nat.add_sub_cancel,
    List.sum_take_succ _ _ bound, List.getElem?_eq_getElem bound, Option.getD_some]

theorem daysBefore_mono (year : Int) : Monotone (daysBefore year) := by
  intro early late ordered
  exact (List.take_sublist_take_left ordered).sum_le_sum (fun _ _ => Nat.zero_le _)

/-- A real date is a day of its year. -/
theorem CivilDate.IsReal.within {date : CivilDate} (real : date.IsReal)
    : dayFromYear date.year ≤ date.dayNumber
      ∧ date.dayNumber < dayFromYear (date.year + 1) := by
  obtain ⟨month, first, last⟩ := real
  have inside := daysBefore_succ date.year month
  have whole := daysBefore_mono date.year month.2
  have total : (daysBefore date.year 12 : Int) = daysInYear date.year := by
    rw [← monthLengths_sum]
    rfl
  rw [dayFromYear_succ, CivilDate.dayNumber]
  omega

theorem CivilDate.IsReal.dayNumber_lt {left right : CivilDate} (leftReal : left.IsReal)
    (rightReal : right.IsReal) (earlier : left < right)
    : left.dayNumber < right.dayNumber := by
  rcases CivilDate.lt_iff.mp earlier with year | ⟨year, month | ⟨month, day⟩⟩
  · have next : dayFromYear (left.year + 1) ≤ dayFromYear right.year :=
      dayFromYear_le year
    exact (leftReal.within.2.trans_le next).trans_le rightReal.within.1
  · have inside := daysBefore_succ left.year leftReal.month
    have later := daysBefore_mono left.year (Nat.le_sub_one_of_lt month)
    have first := rightReal.day.1
    have last := leftReal.day.2
    rw [CivilDate.dayNumber, CivilDate.dayNumber, ← year]
    omega
  · rw [CivilDate.dayNumber, CivilDate.dayNumber, year, month]
    omega

/-- Real dates are ordered as their days are. -/
theorem CivilDate.IsReal.lt_iff_dayNumber {left right : CivilDate} (leftReal : left.IsReal)
    (rightReal : right.IsReal)
    : left < right ↔ left.dayNumber < right.dayNumber := by
  refine ⟨leftReal.dayNumber_lt rightReal, fun earlier => ?_⟩
  by_contra late
  rcases eq_or_lt_of_le (not_lt.mp late) with same | after
  · exact absurd earlier (by rw [same]; exact lt_irrefl _)
  · exact lt_asymm earlier (rightReal.dayNumber_lt leftReal after)

/-- The date of the day of a real date is that date. -/
theorem CivilDate.IsReal.dateOfDay_dayNumber {date : CivilDate} (real : date.IsReal)
    : dateOfDay date.dayNumber = date := by
  have same := dayNumber_dateOfDay date.dayNumber
  apply eq_of_le_of_ge
  · exact not_lt.mp fun after => by
      have order := real.dayNumber_lt (dateOfDay_isReal _) after
      omega
  · exact not_lt.mp fun before => by
      have order := (dateOfDay_isReal _).dayNumber_lt real before
      omega

/-- Later days have later dates. -/
theorem dateOfDay_le {early late : Int} (ordered : early ≤ late)
    : dateOfDay early ≤ dateOfDay late := by
  rcases ordered.lt_or_eq with earlier | rfl
  · refine le_of_lt ?_
    rwa [(dateOfDay_isReal early).lt_iff_dayNumber (dateOfDay_isReal late), dayNumber_dateOfDay,
      dayNumber_dateOfDay]
  · exact le_rfl

-----------------------------------------------------------------------------------------
-- Text
-----------------------------------------------------------------------------------------

/-- `YYYY-MM-DD` -/
def CivilDate.isoText (date : CivilDate) : JsString :=
  paddedText 4 date.year.toNat
    ++ (45 :: (paddedText 2 date.month ++ (45 :: paddedText 2 date.day)))

theorem digitsValue_lt {text : JsString} (digits : text.all isDigit = true)
    : digitsValue text < 10 ^ text.length := by
  induction text using List.reverseRecOn with
  | nil => exact Nat.one_pos
  | append_singleton front unit ih =>
      rw [List.all_append, Bool.and_eq_true] at digits
      have small : unit.toNat - 48 < 10 := by
        have range := digits.2
        simp only [isDigit, List.all_cons, List.all_nil, Bool.and_true, Bool.and_eq_true,
          decide_eq_true_eq, UInt16.le_iff_toNat_le] at range
        have last : (57 : UInt16).toNat = 57 := rfl
        omega
      have before := ih digits.1
      rw [digitsValue_append, List.length_append, List.length_singleton, pow_succ]
      omega

/-- Digits are the padded text of their number, by induction from the end. -/
theorem paddedText_digitsValue {text : JsString} (digits : text.all isDigit = true)
    : paddedText text.length (digitsValue text) = text := by
  induction text using List.reverseRecOn with
  | nil => rfl
  | append_singleton front unit ih =>
      rw [List.all_append, Bool.and_eq_true] at digits
      obtain ⟨last, small, rfl⟩ : ∃ last, last < 10 ∧ unit = UInt16.ofNat (48 + last) := by
        have range := digits.2
        simp only [isDigit, List.all_cons, List.all_nil, Bool.and_true, Bool.and_eq_true,
          decide_eq_true_eq, UInt16.le_iff_toNat_le] at range
        have first : (48 : UInt16).toNat = 48 := rfl
        have last : (57 : UInt16).toNat = 57 := rfl
        refine ⟨unit.toNat - 48, by omega, ?_⟩
        rw [Nat.add_sub_of_le (by omega), UInt16.ofNat_toNat]
      have tens : (digitsValue front * 10 + last) / 10 = digitsValue front := by omega
      have ones : (digitsValue front * 10 + last) % 10 = last := by omega
      rw [digitsValue_append, digit_toNat_of_lt small, Nat.add_sub_cancel_left,
        List.length_append, List.length_singleton, paddedText, tens, ones, ih digits.1]

/-- What is read is a padded number in front of the rest. -/
theorem readDigits_eq_some {width value : Nat} {text rest : JsString}
    : readDigits width text = some (value, rest)
      ↔ value < 10 ^ width ∧ text = paddedText width value ++ rest := by
  constructor
  · intro read
    unfold readDigits at read
    split at read
    case isTrue digits =>
      cases read
      have fits := digitsValue_lt digits.2
      have written := paddedText_digitsValue digits.2
      rw [digits.1] at fits written
      rw [written, List.take_append_drop]
      exact ⟨fits, rfl⟩
    case isFalse => cases read
  · rintro ⟨fits, rfl⟩
    exact readDigits_paddedText width fits rest

theorem readUnit_eq_some {unit : UInt16} {text rest : JsString}
    : readUnit unit text = some rest ↔ text = unit :: rest := by
  cases text with
  | nil => simp [readUnit]
  | cons first others =>
      simp only [readUnit, List.cons.injEq]
      split <;> simp_all

end CivilDates
