import StellarOnramp.Gateway.AgeArithmetic
import StellarOnramp.Identity.PredicateAlgebra
import StellarOnramp.Library.Json
import StellarOnramp.Onboard.Portal

/-! What the portal accepts from the wizard: the applicant and the list of disclosed claims. -/

namespace StellarOnramp.Onboard

open Attempts Calendar CivilDates Gateway Identity JsText

-----------------------------------------------------------------------------------------
-- Fields
-----------------------------------------------------------------------------------------

def requireStringField (body : Json.Value) (key : JsString) : Except PortalAccountError JsString :=
  match (body.get key).bind Json.Value.asString with
  | none | some [] =>
      .error
        {
          status := 400, code := js "missing_field"
          message := js "missing or invalid \"" ++ key ++ js "\""
        }
  | some text => .ok text

def invalidField (message : JsString) : PortalAccountError where
  status := 400
  code := js "invalid_field"
  message

-----------------------------------------------------------------------------------------
-- The applicant
-----------------------------------------------------------------------------------------

structure Applicant where
  givenName : JsString
  familyName : JsString
  dateOfBirth : JsString
  documentNumber : JsString
  residenceCountry : JsString
  deriving DecidableEq

/-- `Date.parse` of a date text with the time behind it; a day up to 31 of any month runs over
into the next.
-/
def parseMidnight (date : JsString) : Option Int :=
  (readDateTime (date ++ js "T00:00:00Z")).bind (fun (fields, whole) => dateParse fields whole)

/-- `/^[A-Z]{2}$/` -/
def isAlpha2 (code : JsString) : Bool :=
  code.length == 2 && code.all fun unit => 65 ≤ unit && unit ≤ 90

/-- `none` is a field that the body does not have, and `toUpperCase` is that of the language. -/
def parseApplicant (toUpperCase : JsString → JsString) (raw : Option Json.Value)
    : Except PortalAccountError Applicant :=
  match raw with
  | some (.object bag) => do
      let givenName ← requireStringField (.object bag) (js "firstName")
      let familyName ← requireStringField (.object bag) (js "lastName")
      let dateOfBirth ← requireStringField (.object bag) (js "dateOfBirth")
      let countryField ← requireStringField (.object bag) (js "country")
      let country := toUpperCase countryField
      let documentNumber ← requireStringField (.object bag) (js "documentNumber")
      failIf (readIsoDate dateOfBirth = none ∨ parseMidnight dateOfBirth = none)
        (invalidField (js "\"dateOfBirth\" must be YYYY-MM-DD"))
      failIf (isAlpha2 country = false)
        (invalidField (js "\"country\" must be an ISO 3166-1 alpha-2 code"))
      failIf (documentNumber.length < 6)
        (invalidField (js "\"documentNumber\" must be at least 6 characters"))
      .ok { givenName, familyName, dateOfBirth, documentNumber, residenceCountry := country }
  | _ =>
      .error
        { status := 400, code := js "missing_field", message := js "missing \"applicant\"" }

-----------------------------------------------------------------------------------------
-- The disclosed claims
-----------------------------------------------------------------------------------------

/-- What the wizard ticks by default, and what an absent list means. -/
def defaultDisclosure : List ClaimName := [.over18, .notSanctioned]

/-- The claims that the bitmap of the contract has a bit for. -/
def chainBackedClaims : List ClaimName := [.over18, .over21, .notSanctioned, .jurisdictionOk]

/-- The disclosable claim that an entry names. -/
def readDisclosable (entry : Json.Value) : Option ClaimName :=
  entry.asString.bind (fun text =>
    disclosableClaimNames.find? (fun name => decide (ofOctets name.text = text)))

/-- The entries in their order, each claim once. -/
def collectNames (names : List ClaimName)
    : List Json.Value → Except PortalAccountError (List ClaimName)
  | [] => .ok names
  | entry :: rest =>
      match readDisclosable entry with
      | none =>
          .error
            (invalidField (js "\"" ++ Json.toText entry ++ js "\" is not a disclosable claim"))
      | some name => collectNames (if name ∈ names then names else names ++ [name]) rest

def parseDisclosure : Option Json.Value → Except PortalAccountError (List ClaimName)
  | none => .ok defaultDisclosure
  | some (.array entries) => do
      let names ← collectNames [] entries
      failIf (names = []) (invalidField (js "choose at least one claim to disclose"))
      failIf (∀ name ∈ names, name ∉ chainBackedClaims)
        (invalidField
          (js ("the claim record carries only over18, over21, notSanctioned, jurisdictionOk, so "
            ++ "at least one of those must be disclosed for the chain to record anything")))
      .ok names
  | some _ => .error (invalidField (js "\"disclose\" must be an array of claim names"))

-----------------------------------------------------------------------------------------
-- Accepted applicants
-----------------------------------------------------------------------------------------

theorem requireStringField_eq_ok {body : Json.Value} {key text : JsString}
    : requireStringField body key = .ok text ↔ body.get key = some (.string text) ∧ text ≠ [] := by
  unfold requireStringField
  cases body.get key with
  | none => simp
  | some field =>
      cases field with
      | string held =>
          cases held with
          | nil =>
              simp only [Option.bind_some, Json.Value.asString, reduceCtorEq, Option.some.injEq,
                Json.Value.string.injEq, false_iff]
              rintro ⟨rfl, filled⟩
              exact filled rfl
          | cons first rest =>
              simp only [Option.bind_some, Json.Value.asString, Except.ok.injEq, Option.some.injEq,
                Json.Value.string.injEq]
              exact ⟨fun same => ⟨same, same ▸ List.cons_ne_nil first rest⟩, And.left⟩
      | _ => simp [Json.Value.asString]

/-- Midnight of a date text reads its three numbers. -/
theorem parseMidnight_isoText {date : CivilDate} (years : 0 ≤ date.year ∧ date.year ≤ 9999)
    (months : date.month < 100) (days : date.day < 100)
    : parseMidnight date.isoText ≠ none
      ↔ (1 ≤ date.month ∧ date.month ≤ 12) ∧ (1 ≤ date.day ∧ date.day ≤ 31) := by
  have fits : date.year.toNat < 10 ^ 4 := by omega
  have midnight : js "T00:00:00Z" = 84 :: (paddedText 2 0 ++ 58 :: (paddedText 2 0 ++ 58 ::
      (paddedText 2 0 ++ [90]))) := rfl
  have read
      : readDateTime (date.isoText ++ js "T00:00:00Z")
        = some
            ({
              year := date.year.toNat, month := date.month, day := date.day
              hour := 0, minute := 0, second := 0
            }, true) := by
    rw [midnight, CivilDate.isoText]
    simp only [List.append_assoc, List.cons_append, readDateTime, readUnit_cons, readTail_utc,
      Option.bind_eq_bind, Option.bind_some, readDigits_paddedText 4 fits,
      readDigits_paddedText 2 months, readDigits_paddedText 2 days,
      readDigits_paddedText 2 (show 0 < 10 ^ 2 by decide)]
  rw [parseMidnight, read]
  simp only [Option.bind_some, dateParse, ne_eq, ite_eq_right_iff, reduceCtorEq, imp_false,
    not_not, Nat.zero_le, and_true, true_or]
  exact and_assoc.symm

/-- Three numbers in the shape of a date: the year has four digits, the month is one of twelve
and the day is at most 31, whatever the month.
-/
structure DateShaped (date : CivilDate) : Prop where
  year : 0 ≤ date.year ∧ date.year ≤ 9999
  month : 1 ≤ date.month ∧ date.month ≤ 12
  day : 1 ≤ date.day ∧ date.day ≤ 31

theorem DateShaped.short {date : CivilDate} (shaped : DateShaped date)
    : date.month < 100 ∧ date.day < 100 :=
  ⟨Nat.lt_of_le_of_lt shaped.month.2 (by decide), Nat.lt_of_le_of_lt shaped.day.2 (by decide)⟩

theorem DateShaped.readIsoDate {date : CivilDate} (shaped : DateShaped date)
    : Gateway.readIsoDate date.isoText
      = some { year := date.year, month := date.month, day := date.day } :=
  readIsoDate_eq_some.mpr ⟨shaped.year, shaped.short.1, shaped.short.2, rfl⟩

theorem DateShaped.isoText_inj {date other : CivilDate} (shaped : DateShaped date)
    (shaped' : DateShaped other) (same : date.isoText = other.isoText)
    : date = other := by
  have read := shaped.readIsoDate
  rw [same, shaped'.readIsoDate, Option.some.injEq, CalendarDate.mk.injEq] at read
  obtain ⟨year, month, day⟩ := read
  exact CivilDate.ext year.symm month.symm day.symm

theorem IsBirthDate.dateShaped {date : CivilDate} (birth : IsBirthDate date) : DateShaped date where
  year := ⟨le_trans (by decide) birth.year.1, birth.year.2⟩
  month := birth.real.month
  day := ⟨birth.real.day.1, birth.real.day.2.trans (monthLength_le _ _)⟩

/-- The check of the birth date at the edge knows the shape of a date and not the calendar. -/
theorem dateChecked_iff {text : JsString}
    : ¬ (readIsoDate text = none ∨ parseMidnight text = none)
      ↔ ∃ date : CivilDate, text = date.isoText ∧ DateShaped date := by
  rw [not_or]
  constructor
  · rintro ⟨shaped, parsed⟩
    obtain ⟨date, read⟩ := Option.ne_none_iff_exists'.mp shaped
    obtain ⟨years, months, days, rfl⟩ := readIsoDate_eq_some.mp read
    obtain ⟨month, day⟩ := (@parseMidnight_isoText date.civil years months days).mp parsed
    exact ⟨date.civil, rfl, { year := years, month, day }⟩
  · rintro ⟨date, rfl, shaped⟩
    refine ⟨?_, (parseMidnight_isoText shaped.year shaped.short.1 shaped.short.2).mpr
      ⟨shaped.month, shaped.day⟩⟩
    rw [shaped.readIsoDate]
    exact Option.some_ne_none _

/-- An accepted applicant, field by field. -/
theorem parseApplicant_eq_ok {toUpperCase : JsString → JsString} {raw : Option Json.Value}
    {applicant : Applicant}
    : parseApplicant toUpperCase raw = .ok applicant
      ↔ ∃ bag country,
          raw = some (.object bag)
          ∧ requireStringField (.object bag) (js "firstName") = .ok applicant.givenName
          ∧ requireStringField (.object bag) (js "lastName") = .ok applicant.familyName
          ∧ requireStringField (.object bag) (js "dateOfBirth") = .ok applicant.dateOfBirth
          ∧ requireStringField (.object bag) (js "country") = .ok country
          ∧ requireStringField (.object bag) (js "documentNumber") = .ok applicant.documentNumber
          ∧ (∃ date : CivilDate, applicant.dateOfBirth = date.isoText ∧ DateShaped date)
          ∧ isAlpha2 (toUpperCase country) = true
          ∧ 6 ≤ applicant.documentNumber.length
          ∧ applicant.residenceCountry = toUpperCase country := by
  constructor
  · intro accepted
    unfold parseApplicant at accepted
    split at accepted
    case h_2 => cases accepted
    case h_1 bag =>
      simp only [bind_eq_ok] at accepted
      obtain ⟨givenName, given, familyName, family, dateOfBirth, birth, country, home,
        documentNumber, document, _, shaped, _, alpha, _, long, same⟩ := accepted
      obtain rfl := Except.ok.inj same
      refine ⟨bag, country, rfl, given, family, birth, home, document, ?_, ?_, ?_, rfl⟩
      · exact dateChecked_iff.mp (failIf_eq_ok.mp shaped)
      · exact Bool.eq_true_of_not_eq_false (failIf_eq_ok.mp alpha)
      · exact Nat.le_of_not_lt (failIf_eq_ok.mp long)
  · rintro ⟨bag, country, rfl, given, family, birth, home, document, shaped, alpha, long, rest⟩
    obtain ⟨givenName, familyName, dateOfBirth, documentNumber, residenceCountry⟩ := applicant
    obtain rfl := rest
    simp only [parseApplicant, bind_eq_ok]
    exact ⟨givenName, given, familyName, family, dateOfBirth, birth, country, home,
      documentNumber, document, (), failIf_eq_ok.mpr (dateChecked_iff.mpr shaped),
      (), failIf_eq_ok.mpr (by rw [alpha]; decide), (), failIf_eq_ok.mpr (Nat.not_lt.mpr long),
      rfl⟩

/-- Every refusal of an applicant is a 400. -/
theorem parseApplicant_refuses (toUpperCase : JsString → JsString) (raw : Option Json.Value)
    : FailsWith (fun error => error.status = 400) (parseApplicant toUpperCase raw) := by
  have field (body : Json.Value) (key : JsString)
      : FailsWith (fun error => error.status = 400) (requireStringField body key) := by
    unfold requireStringField
    split
    · exact failsWith_error rfl
    · exact failsWith_error rfl
    · exact failsWith_ok _
  have check (wrong : Prop) [Decidable wrong] (message : JsString)
      : FailsWith (fun error => error.status = 400) (failIf wrong (invalidField message)) :=
    failsWith_failIf rfl
  unfold parseApplicant
  split
  case h_2 => exact failsWith_error rfl
  case h_1 bag =>
    refine (field _ _).bind fun givenName => (field _ _).bind fun familyName => ?_
    refine (field _ _).bind fun dateOfBirth => (field _ _).bind fun country => ?_
    refine (field _ _).bind fun documentNumber => (check _ _).bind fun shaped => ?_
    refine (check _ _).bind fun alpha => (check _ _).bind fun long => ?_
    exact failsWith_ok _

/-- The edge lets a birth date of the right shape through, and its age can be computed exactly
when the calendar has the date, its year has three digits or more, and the instant is neither
before it nor 151 years after it.
-/
theorem applicant_age_derivable_iff {toUpperCase : JsString → JsString}
    {raw : Option Json.Value} {applicant : Applicant}
    (accepted : parseApplicant toUpperCase raw = .ok applicant)
    : ∃ date : CivilDate,
        raw.bind (Json.Value.get · (js "dateOfBirth")) = some (.string date.isoText)
        ∧ applicant.dateOfBirth = date.isoText
        ∧ DateShaped date
        ∧ ∀ now,
            (∃ age, Age.ageAtUtc (some applicant.dateOfBirth) (some now) = .ok age)
            ↔ date.day ≤ monthLength date.year date.month
              ∧ 100 ≤ date.year
              ∧ date ≤ utcDate now
              ∧ utcDate now < date.plusYears 151 := by
  obtain ⟨bag, country, rfl, -, -, field, -, -, ⟨date, same, shaped⟩, -⟩ :=
    parseApplicant_eq_ok.mp accepted
  obtain ⟨sent, -⟩ := requireStringField_eq_ok.mp field
  refine ⟨date, same ▸ sent, same, shaped, fun now => ?_⟩
  rw [same, Age.exists_ageAtUtc_eq_ok]
  constructor
  · rintro ⟨birth, texts, real, between⟩
    obtain rfl := shaped.isoText_inj (IsBirthDate.dateShaped real) texts
    exact ⟨real.real.day.2, real.year.1, between⟩
  · rintro ⟨held, long, between⟩
    have real : date.IsReal := ⟨shaped.month, shaped.day.1, held⟩
    exact ⟨date, rfl, ⟨real, long, shaped.year.2⟩, between⟩

/-- A body of the wizard. -/
def sampleApplicantBody (dateOfBirth : JsString) : Json.Value :=
  .object
    [
      (js "firstName", .string (js "Ada")),
      (js "lastName", .string (js "Byron")),
      (js "dateOfBirth", .string dateOfBirth),
      (js "country", .string (js "gb")),
      (js "documentNumber", .string (js "P1234567"))
    ]

def sampleApplicant (dateOfBirth : JsString) : Applicant where
  givenName := js "Ada"
  familyName := js "Byron"
  dateOfBirth
  documentNumber := js "P1234567"
  residenceCountry := js "GB"

theorem applicant_age_derivable_iff_sample
    : parseApplicant toUpperCase (some (sampleApplicantBody (js "1990-05-04")))
        = .ok (sampleApplicant (js "1990-05-04"))
      ∧ ∃ date : CivilDate,
          (some (sampleApplicantBody (js "1990-05-04"))).bind
              (Json.Value.get · (js "dateOfBirth"))
            = some (.string date.isoText)
          ∧ (sampleApplicant (js "1990-05-04")).dateOfBirth = date.isoText
          ∧ DateShaped date
          ∧ ∀ now,
              (∃ age,
                  Age.ageAtUtc (some (sampleApplicant (js "1990-05-04")).dateOfBirth) (some now)
                  = .ok age)
              ↔ date.day ≤ monthLength date.year date.month
                ∧ 100 ≤ date.year
                ∧ date ≤ utcDate now
                ∧ utcDate now < date.plusYears 151 := by
  have accepted
      : parseApplicant toUpperCase (some (sampleApplicantBody (js "1990-05-04")))
        = .ok (sampleApplicant (js "1990-05-04")) := by
    decide
  exact ⟨accepted, applicant_age_derivable_iff accepted⟩

/-- The edge accepts a birth date of the year 3000, from which no age can be computed in 2026. -/
theorem unborn_applicant_accepted
    : ¬ ∀ raw applicant now,
          parseApplicant toUpperCase raw = .ok applicant
          → ∃ age, Age.ageAtUtc (some applicant.dateOfBirth) (some now) = .ok age := by
  intro derivable
  have accepted
      : parseApplicant toUpperCase (some (sampleApplicantBody (js "3000-01-01")))
        = .ok (sampleApplicant (js "3000-01-01")) := by
    decide
  obtain ⟨age, aged⟩ := derivable _ _ 1767225600000 accepted
  have future
      : Age.ageAtUtc (some (js "3000-01-01")) (some 1767225600000) = .error .inTheFuture := by
    decide
  cases future.symm.trans aged

end StellarOnramp.Onboard
