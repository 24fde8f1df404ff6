import StellarOnramp.Gateway.ClaimDerivation

/-! The round trip through `Date.UTC` accepts the birth dates that the calendar has, and the age
that the code computes is the number of birthdays that have passed.
-/

namespace StellarOnramp.Gateway

open Attempts Calendar CivilDates JsText

-----------------------------------------------------------------------------------------
-- Birth dates
-----------------------------------------------------------------------------------------

def CalendarDate.civil (date : CalendarDate) : CivilDate :=
  { year := date.year, month := date.month, day := date.day }

/-- A date text of the format. -/
theorem readIsoDate_eq_some {text : JsString} {date : CalendarDate}
    : readIsoDate text = some date
      ↔ (0 ≤ date.year ∧ date.year ≤ 9999)
        ∧ date.month < 100
        ∧ date.day < 100
        ∧ text = date.civil.isoText := by
  constructor
  · intro read
    simp only [readIsoDate, Option.bind_eq_bind, Option.bind_eq_some_iff, Prod.exists,
      readDigits_eq_some, readUnit_eq_some, Option.ite_none_right_eq_some, Option.some.injEq]
      at read
    obtain ⟨year, _, ⟨yearFits, rfl⟩, _, rfl, month, _, ⟨monthFits, rfl⟩, _, rfl, day, _,
      ⟨dayFits, rfl⟩, rfl, rfl⟩ := read
    have four : (year : Int) ≤ 9999 := by omega
    refine ⟨⟨Int.natCast_nonneg year, four⟩, monthFits, dayFits, ?_⟩
    simp [CivilDate.isoText, CalendarDate.civil]
  · rintro ⟨⟨natural, four⟩, monthFits, dayFits, rfl⟩
    obtain ⟨year, month, day⟩ := date
    obtain ⟨year, rfl⟩ := Int.eq_ofNat_of_zero_le natural
    have yearFits : year < 10 ^ 4 := by
      have bound : (year : Int) ≤ 9999 := four
      omega
    have last : paddedText 2 day = paddedText 2 day ++ [] := (List.append_nil _).symm
    simp only [CivilDate.isoText, CalendarDate.civil, Int.toNat_natCast]
    rw [last]
    simp only [readIsoDate, Option.bind_eq_bind, Option.bind_some, readUnit_cons,
      readDigits_paddedText 4 yearFits, readDigits_paddedText 2 monthFits,
      readDigits_paddedText 2 dayFits, if_true]

/-- A real date of a year that `Date.UTC` takes as it is. -/
structure IsBirthDate (date : CivilDate) : Prop where
  real : date.IsReal
  year : 100 ≤ date.year ∧ date.year ≤ 9999

theorem makeDay_eq {year : Int} {month day : Nat} (inside : 1 ≤ month ∧ month ≤ 12)
    : makeDay year ((month : Int) - 1) day = CivilDate.dayNumber { year, month, day } := by
  have none : ((month : Int) - 1) / 12 = 0 := by omega
  have same : (((month : Int) - 1) % 12).toNat = month - 1 := by omega
  rw [makeDay, none, same, add_zero]
  rfl

/-- A year as `Date.UTC` takes it. -/
def fullYear (year : Int) : Int := if 0 ≤ year ∧ year ≤ 99 then 1900 + year else year

theorem daysBefore_le (year : Int) (month : Nat) : daysBefore year month ≤ 366 := by
  have whole : (daysBefore year month : Int) ≤ (monthLengths year).sum := by
    exact_mod_cast (List.take_sublist month _).sum_le_sum (fun _ _ => Nat.zero_le _)
  rw [monthLengths_sum, daysInYear] at whole
  split at whole <;> omega

/-- What a date text can name is a time value: no year of four digits is too far from 1970. -/
theorem dateUtc_eq_some {year : Int} {month day : Nat} (years : 0 ≤ year ∧ year ≤ 9999)
    (months : month < 100) (days : day < 100)
    : dateUtc year ((month : Int) - 1) day
      = some (makeDay (fullYear year) ((month : Int) - 1) day * msPerDay) := by
  have inside : 0 ≤ fullYear year ∧ fullYear year ≤ 9999 := by
    unfold fullYear
    split <;> omega
  obtain ⟨early, late⟩ := inside
  have before := daysBefore_le (fullYear year + ((month : Int) - 1) / 12)
    (((month : Int) - 1) % 12).toNat
  apply if_pos
  change (makeDay (fullYear year) ((month : Int) - 1) day * msPerDay).natAbs ≤ _
  simp only [makeDay, dayFromYear, msPerDay]
  omega

theorem utcDate_mul (day : Int) : utcDate (day * msPerDay) = dateOfDay day := by
  rw [utcDate, Int.mul_ediv_cancel _ (by decide)]

/-- A date comes back from `Date.UTC` when it is real and its year has more than two digits:
what the roll-over leads to is always real, and a year of two digits leads to another century.
-/
theorem roundTrip_iff {date : CivilDate} (years : 0 ≤ date.year ∧ date.year ≤ 9999)
    : dateOfDay (makeDay (fullYear date.year) ((date.month : Int) - 1) date.day) = date
      ↔ IsBirthDate date := by
  constructor
  · intro back
    have real : date.IsReal := back ▸ dateOfDay_isReal _
    refine { real, year := ⟨?_, years.2⟩ }
    by_contra short
    have century : fullYear date.year = 1900 + date.year :=
      if_pos ⟨years.1, by omega⟩
    have number := dayNumber_dateOfDay
      (makeDay (fullYear date.year) ((date.month : Int) - 1) date.day)
    have early := real.within.2
    have late : dayFromYear (date.year + 1) ≤ dayFromYear (1900 + date.year) :=
      dayFromYear_le (by omega)
    have first := real.day.1
    rw [back, century, makeDay_eq real.month] at number
    rw [number, CivilDate.dayNumber] at early
    dsimp only at early
    omega
  · rintro ⟨real, long, -⟩
    have same : fullYear date.year = date.year := if_neg (by omega)
    rw [same, makeDay_eq real.month]
    exact real.dateOfDay_dayNumber

/-- The check after the round trip compares the whole date. -/
theorem sameDate_iff {roundTrip : CivilDate} {date : CalendarDate}
    : ¬ (roundTrip.year ≠ date.year
          ∨ (roundTrip.month : Int) - 1 ≠ (date.month : Int) - 1
          ∨ roundTrip.day ≠ date.day)
      ↔ roundTrip = date.civil := by
  rw [CivilDate.ext_iff]
  simp only [CalendarDate.civil]
  omega

/-- A date text is accepted when the calendar has its date, and its year has four digits. -/
theorem Age.parseCalendarDate_of_read {text : JsString} {read date : CalendarDate}
    (found : readIsoDate text = some read)
    : Age.parseCalendarDate (some text) = .ok date ↔ IsBirthDate read.civil ∧ date = read := by
  obtain ⟨years, months, days, -⟩ := readIsoDate_eq_some.mp found
  have time := dateUtc_eq_some years months days
  have back : dateOfDay (makeDay (fullYear read.year) ((read.month : Int) - 1) read.day)
        = read.civil
      ↔ IsBirthDate read.civil :=
    @roundTrip_iff read.civil years
  obtain ⟨year, month, day⟩ := read
  simp only [Age.parseCalendarDate, found, time, utcDate_mul]
  rw [failIf_bind_eq_ok, ← back]
  exact and_congr (@sameDate_iff _ { year, month, day }) (by rw [Except.ok.injEq, eq_comm])

/-- The accepted texts are those of the birth dates. -/
theorem Age.parseCalendarDate_eq_ok {value : Option JsString} {date : CalendarDate}
    : Age.parseCalendarDate value = .ok date
      ↔ value = some date.civil.isoText ∧ IsBirthDate date.civil := by
  constructor
  · intro accepted
    cases value with
    | none => cases accepted
    | some text =>
        cases found : readIsoDate text with
        | none =>
            simp only [Age.parseCalendarDate, found] at accepted
            cases accepted
        | some read =>
            obtain ⟨birth, rfl⟩ := (Age.parseCalendarDate_of_read found).mp accepted
            obtain ⟨-, -, -, rfl⟩ := readIsoDate_eq_some.mp found
            exact ⟨rfl, birth⟩
  · rintro ⟨rfl, birth⟩
    have early : 0 ≤ date.civil.year := le_trans (by decide) birth.year.1
    have month : date.civil.month < 100 := Nat.lt_of_le_of_lt birth.real.month.2 (by decide)
    have day : date.civil.day < 100 :=
      Nat.lt_of_le_of_lt (birth.real.day.2.trans (monthLength_le _ _)) (by decide)
    have found : readIsoDate date.civil.isoText = some date :=
      readIsoDate_eq_some.mpr ⟨⟨early, birth.year.2⟩, month, day, rfl⟩
    exact (Age.parseCalendarDate_of_read found).mpr ⟨birth, rfl⟩

-----------------------------------------------------------------------------------------
-- Ages
-----------------------------------------------------------------------------------------

/-- So many birthdays have passed on a date, and no more. -/
structure IsAge (birth today : CivilDate) (age : Int) : Prop where
  range : 0 ≤ age ∧ age ≤ 150
  reached : birth.plusYears age ≤ today
  next : today < birth.plusYears (age + 1)

/-- The birthday of this year is still to come. -/
def BeforeBirthday (birth today : CivilDate) : Prop :=
  today.month < birth.month ∨ today.month = birth.month ∧ today.day < birth.day

instance (birth today : CivilDate) : Decidable (BeforeBirthday birth today) := by
  unfold BeforeBirthday
  infer_instance

/-- The difference of the years, less one before the birthday, is the only candidate. -/
theorem isAge_iff {birth today : CivilDate} {age : Int}
    : IsAge birth today age
      ↔ (0 ≤ age ∧ age ≤ 150)
        ∧ age = today.year - birth.year - (if BeforeBirthday birth today then 1 else 0) := by
  have between
      : birth.plusYears age ≤ today ∧ today < birth.plusYears (age + 1)
        ↔ age = today.year - birth.year - (if BeforeBirthday birth today then 1 else 0) := by
    rw [← not_lt, CivilDate.lt_iff, CivilDate.lt_iff]
    simp only [CivilDate.plusYears]
    by_cases before : BeforeBirthday birth today
    · rw [if_pos before]
      unfold BeforeBirthday at before
      omega
    · rw [if_neg before]
      unfold BeforeBirthday at before
      omega
  rw [← between]
  exact ⟨fun ⟨range, reached, next⟩ => ⟨range, reached, next⟩,
    fun ⟨range, reached, next⟩ => ⟨range, reached, next⟩⟩

theorem IsAge.unique {birth today : CivilDate} {age other : Int} (first : IsAge birth today age)
    (second : IsAge birth today other)
    : age = other :=
  (isAge_iff.mp first).2.trans (isAge_iff.mp second).2.symm

/-- Later dates have no smaller ages. -/
theorem IsAge.mono {birth today later : CivilDate} {age other : Int}
    (first : IsAge birth today age) (second : IsAge birth later other) (ordered : today ≤ later)
    : age ≤ other := by
  have passed := first.reached.trans (ordered.trans second.next.le)
  by_contra shrunk
  have order := CivilDate.lt_iff.mp (second.next.trans_le' (first.reached.trans ordered))
  simp only [CivilDate.plusYears] at order
  omega

/-- An age is a threshold or more when that birthday has come. -/
theorem IsAge.threshold_iff {birth today : CivilDate} {age : Int} (here : IsAge birth today age)
    (threshold : Int)
    : threshold ≤ age ↔ birth.plusYears threshold ≤ today := by
  constructor
  · intro enough
    refine le_trans (not_lt.mp fun after => ?_) here.reached
    have order := CivilDate.lt_iff.mp after
    simp only [CivilDate.plusYears] at order
    omega
  · intro reached
    have order := CivilDate.lt_iff.mp (reached.trans_lt here.next)
    simp only [CivilDate.plusYears] at order
    omega

theorem Age.ageAtUtc_eq_ok {dobIso : Option JsString} {time age : Int} {dob : CalendarDate}
    (parsed : Age.parseCalendarDate dobIso = .ok dob)
    : Age.ageAtUtc dobIso (some time) = .ok age ↔ IsAge dob.civil (utcDate time) age := by
  have same
      : (utcDate time).year - dob.year
            - (if BeforeBirthday dob.civil (utcDate time) then 1 else 0)
        = if BeforeBirthday dob.civil (utcDate time) then
            (utcDate time).year - dob.year - 1
          else
            (utcDate time).year - dob.year := by
    split <;> omega
  rw [isAge_iff]
  change _ ↔ _ ∧ age = (utcDate time).year - dob.year - _
  rw [same, Age.ageAtUtc, parsed]
  refine (failIf_bind_eq_ok.trans (and_congr_right fun _ => failIf_bind_eq_ok)).trans ?_
  rw [Except.ok.injEq, not_lt, not_lt]
  constructor
  · rintro ⟨natural, possible, rfl⟩
    exact ⟨⟨natural, possible⟩, rfl⟩
  · rintro ⟨⟨natural, possible⟩, rfl⟩
    exact ⟨natural, possible, rfl⟩

/-- There is an age from the birth on and until the birthday that is one too many. -/
theorem exists_isAge_iff {birth today : CivilDate}
    : (∃ age, IsAge birth today age) ↔ birth ≤ today ∧ today < birth.plusYears 151 := by
  have born : birth ≤ today ↔ ¬ today < birth := not_lt.symm
  rw [born, CivilDate.lt_iff, CivilDate.lt_iff]
  simp only [isAge_iff, CivilDate.plusYears, exists_eq_right]
  by_cases before : BeforeBirthday birth today
  · rw [if_pos before]
    unfold BeforeBirthday at before
    omega
  · rw [if_neg before]
    unfold BeforeBirthday at before
    omega

/-- The code computes an age when the text is that of a birth date at most 150 years ago. -/
theorem Age.exists_ageAtUtc_eq_ok {text : JsString} {time : Int}
    : (∃ age, Age.ageAtUtc (some text) (some time) = .ok age)
      ↔ ∃ birth : CivilDate,
          text = birth.isoText
          ∧ IsBirthDate birth
          ∧ birth ≤ utcDate time
          ∧ utcDate time < birth.plusYears 151 := by
  constructor
  · rintro ⟨age, aged⟩
    obtain ⟨dob, parsed, -⟩ := bind_eq_ok.mp aged
    obtain ⟨same, birth⟩ := Age.parseCalendarDate_eq_ok.mp parsed
    have here := (Age.ageAtUtc_eq_ok parsed).mp aged
    exact ⟨dob.civil, Option.some.inj same, birth, exists_isAge_iff.mp ⟨age, here⟩⟩
  · rintro ⟨⟨year, month, day⟩, rfl, birth, between⟩
    obtain ⟨age, here⟩ := exists_isAge_iff.mpr between
    have parsed : Age.parseCalendarDate (some (CivilDate.isoText { year, month, day }))
        = .ok { year, month, day } :=
      Age.parseCalendarDate_eq_ok.mpr ⟨rfl, birth⟩
    exact ⟨age, (Age.ageAtUtc_eq_ok parsed).mpr here⟩

/-- The booleans are the two comparisons of the age. -/
theorem Age.deriveAgeClaims_eq_ok {dobIso : Option JsString} {time : Option Int}
    {claims : Age.AgeClaims}
    : Age.deriveAgeClaims dobIso time = .ok claims
      ↔ ∃ age,
          Age.ageAtUtc dobIso time = .ok age
          ∧ claims = { over18 := 18 ≤ age, over21 := 21 ≤ age } := by
  rw [Age.deriveAgeClaims, bind_eq_ok]
  exact exists_congr fun age => and_congr_right fun _ => by rw [Except.ok.injEq, eq_comm]

/-- Birth dates are the real dates from the year 100 on, in their one text. From such a date and
an instant the code computes the number of birthdays that have passed, if it is between 0 and
150; it grows with the instant, and the two booleans say whether those birthdays have come.
-/
theorem age_arithmetic
    : (∀ value date,
          Age.parseCalendarDate value = .ok date
          ↔ value = some date.civil.isoText ∧ IsBirthDate date.civil)
      ∧ (∀ dobIso dob,
          Age.parseCalendarDate dobIso = .ok dob
          → (∀ time age,
                Age.ageAtUtc dobIso (some time) = .ok age ↔ IsAge dob.civil (utcDate time) age)
            ∧ (∀ time age other,
                IsAge dob.civil (utcDate time) age
                → IsAge dob.civil (utcDate time) other
                → age = other)
            ∧ (∀ early late age other,
                early ≤ late
                → Age.ageAtUtc dobIso (some early) = .ok age
                → Age.ageAtUtc dobIso (some late) = .ok other
                → age ≤ other)
            ∧ ∀ time,
                ((∃ claims, Age.deriveAgeClaims dobIso (some time) = .ok claims)
                  ↔ ∃ age, IsAge dob.civil (utcDate time) age)
                ∧ ∀ claims,
                    Age.deriveAgeClaims dobIso (some time) = .ok claims
                    → (claims.over18 = true ↔ dob.civil.plusYears 18 ≤ utcDate time)
                      ∧ (claims.over21 = true ↔ dob.civil.plusYears 21 ≤ utcDate time)) := by
  refine ⟨fun value date => Age.parseCalendarDate_eq_ok, fun dobIso dob parsed => ?_⟩
  refine ⟨fun time age => Age.ageAtUtc_eq_ok parsed, fun time age other => IsAge.unique, ?_, ?_⟩
  · intro early late age other ordered first second
    have dates : utcDate early ≤ utcDate late :=
      dateOfDay_le (Int.ediv_le_ediv (by decide) ordered)
    exact IsAge.mono ((Age.ageAtUtc_eq_ok parsed).mp first)
      ((Age.ageAtUtc_eq_ok parsed).mp second) dates
  · intro time
    constructor
    · constructor
      · rintro ⟨claims, derived⟩
        obtain ⟨age, aged, -⟩ := Age.deriveAgeClaims_eq_ok.mp derived
        exact ⟨age, (Age.ageAtUtc_eq_ok parsed).mp aged⟩
      · rintro ⟨age, here⟩
        exact ⟨_, Age.deriveAgeClaims_eq_ok.mpr ⟨age, (Age.ageAtUtc_eq_ok parsed).mpr here, rfl⟩⟩
    · intro claims derived
      obtain ⟨age, aged, rfl⟩ := Age.deriveAgeClaims_eq_ok.mp derived
      have here := (Age.ageAtUtc_eq_ok parsed).mp aged
      simp only [decide_eq_true_eq]
      exact ⟨here.threshold_iff 18, here.threshold_iff 21⟩

end StellarOnramp.Gateway
