import StellarOnramp.Gateway.Claims
import StellarOnramp.Library.CivilDates

/-! Deriving the six booleans from what the provider reports. A boolean is true only where the
provider said so. Ages are computed from a birth date and an instant: through `Date.UTC`, which
rolls a missing day over, and through the civil date of the instant.
-/

namespace StellarOnramp.Gateway

open Attempts Calendar CivilDates JsText Octets
open StellarOnramp.Identity

inductive ReviewAnswer where
  | approved
  | rejected
  | pending
  deriving DecidableEq

/-- What a provider reports about an applicant, as far as the derivation reads it. -/
structure KycStatus where
  answer : ReviewAnswer
  dateOfBirth : Option JsString
  residenceCountry : Option JsString
  sanctionsHit : Option Bool
  pepHit : Option Bool
  livenessPassed : Option Bool
  deriving DecidableEq

-----------------------------------------------------------------------------------------
-- Date
-----------------------------------------------------------------------------------------

/-- Milliseconds of a day. -/
def msPerDay : Int := 86400000

/-- A time value further from 1970 is no date. -/
def timeClip (time : Int) : Option Int :=
  if time.natAbs ≤ 8640000000000000 then some time else none

/-- The day of a year, a month from zero and a day of the month; each may be outside its range. -/
def makeDay (year month day : Int) : Int :=
  let ym := year + month / 12
  dayFromYear ym + daysBefore ym (month % 12).toNat + (day - 1)

/-- `Date.UTC`, which reads a year of two digits as one of the 1900s. -/
def dateUtc (year month day : Int) : Option Int :=
  let year := if 0 ≤ year ∧ year ≤ 99 then 1900 + year else year
  timeClip (makeDay year month day * msPerDay)

/-- The civil date of a time value in UTC. -/
def utcDate (time : Int) : CivilDate := dateOfDay (time / msPerDay)

-----------------------------------------------------------------------------------------
-- Age
-----------------------------------------------------------------------------------------

/-- Every way in which an age is refused; none of the texts names the date. -/
inductive AgeFailure where
  | invalidInstant
  | notAString
  | notIsoDate
  | noSuchDay
  | inTheFuture
  | tooOld (age : Int)
  deriving DecidableEq

structure CalendarDate where
  year : Int
  month : Nat
  day : Nat
  deriving DecidableEq

/-- `/^(\d{4})-(\d{2})-(\d{2})$/` -/
def readIsoDate (text : JsString) : Option CalendarDate := do
  let (year, text) ← readDigits 4 text
  let text ← readUnit 45 text
  let (month, text) ← readDigits 2 text
  let text ← readUnit 45 text
  let (day, text) ← readDigits 2 text
  if text = [] then some { year, month, day } else none

namespace Age

/-- `none` is a value that is not a string. -/
def parseCalendarDate : Option JsString → Except AgeFailure CalendarDate
  | none => .error .notAString
  | some value =>
      match readIsoDate value with
      | none => .error .notIsoDate
      | some { year, month, day } =>
          match dateUtc year ((month : Int) - 1) day with
          | none => .error .noSuchDay
          | some time => do
              let roundTrip := utcDate time
              failIf
                (roundTrip.year ≠ year
                  ∨ (roundTrip.month : Int) - 1 ≠ (month : Int) - 1
                  ∨ roundTrip.day ≠ day)
                .noSuchDay
              .ok { year, month, day }

/-- The instant is a time value; `none` is no valid date. -/
def ageAtUtc (dobIso : Option JsString) : Option Int → Except AgeFailure Int
  | none => .error .invalidInstant
  | some time => do
      let dob ← parseCalendarDate dobIso
      let age := (utcDate time).year - dob.year
      let atMonth := (utcDate time).month
      let atDay := (utcDate time).day
      let beforeBirthday := atMonth < dob.month ∨ atMonth = dob.month ∧ atDay < dob.day
      let age := if beforeBirthday then age - 1 else age
      failIf (age < 0) .inTheFuture
      failIf (150 < age) (.tooOld age)
      .ok age

structure AgeClaims where
  over18 : Bool
  over21 : Bool

def deriveAgeClaims (dobIso : Option JsString) (time : Option Int)
    : Except AgeFailure AgeClaims := do
  let age ← ageAtUtc dobIso time
  .ok { over18 := 18 ≤ age, over21 := 21 ≤ age }

end Age

-----------------------------------------------------------------------------------------
-- The six booleans
-----------------------------------------------------------------------------------------

inductive ClaimDerivationFailure where
  | notApproved (answer : ReviewAnswer)
  | age (failure : AgeFailure)
  deriving DecidableEq

def issuerJurisdictionPolicy : List JsString :=
  [
    "AT", "BE", "CH", "CZ", "DE", "DK", "EE", "ES", "FI", "FR", "GB", "IE", "IT", "LT", "LU",
    "LV", "NL", "NO", "PL", "PT", "SE", "SI", "SK"
  ].map js

/-- An absent or malformed country is refused; there is no trimming and no case folding. -/
def jurisdictionAllowed : Option JsString → Bool
  | none => false
  | some country =>
      country.length == 2 && country.all (fun unit => 65 ≤ unit && unit ≤ 90)
        && issuerJurisdictionPolicy.contains country

def deriveClaimSet (status : KycStatus) (time : Option Int)
    : Except ClaimDerivationFailure ClaimSet := do
  failIf (status.answer ≠ .approved) (.notApproved status.answer)
  let age ← (Age.deriveAgeClaims status.dateOfBirth time).mapError .age
  .ok
    {
      over18 := age.over18
      over21 := age.over21
      notSanctioned := status.sanctionsHit == some false
      notPep := status.pepHit == some false
      jurisdictionOk := jurisdictionAllowed status.residenceCountry
      livenessOk := status.livenessPassed == some true
    }

example
    : deriveClaimSet
        {
          answer := .approved
          dateOfBirth := some (js "2004-02-29")
          residenceCountry := some (js "DE")
          sanctionsHit := some false
          pepHit := none
          livenessPassed := some true
        }
        (some 1740700800000)
      = .ok
          {
            over18 := true
            over21 := false
            notSanctioned := true
            notPep := false
            jurisdictionOk := true
            livenessOk := true
          } := by
  decide +kernel

end StellarOnramp.Gateway
