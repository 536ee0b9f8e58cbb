/-!
Calendar time: a number of seconds since the beginning of 1970, as a date and a time of day.
-/

set_option autoImplicit false

namespace FluentWrap.Clock

def secondsPerDay : Nat := 86400

/-- Days in four hundred years, after which the calendar repeats itself. -/
def daysPerEra : Nat := 146097

/-- Days from the first of March of the year 0 to the beginning of 1970. -/
def daysBeforeEpoch : Nat := 719468

structure Date where
  year : Nat
  month : Nat
  day : Nat
  deriving DecidableEq, Repr

/-- The date of a day, counted from the beginning of 1970. Years are counted from March on, so
that the day added in a leap year is the last of its year. -/
def dateOfDay (daysSinceEpoch : Nat) : Date :=
  let days := daysSinceEpoch + daysBeforeEpoch
  let era := days / daysPerEra
  let dayOfEra := days % daysPerEra
  let yearOfEra := (dayOfEra - dayOfEra / 1460 + dayOfEra / 36524 - dayOfEra / 146096) / 365
  let dayOfYear := dayOfEra - (365 * yearOfEra + yearOfEra / 4 - yearOfEra / 100)
  let monthFromMarch := (5 * dayOfYear + 2) / 153
  let day := dayOfYear - (153 * monthFromMarch + 2) / 5 + 1
  let month := if monthFromMarch < 10 then monthFromMarch + 3 else monthFromMarch - 9
  ⟨400 * era + yearOfEra + (if month ≤ 2 then 1 else 0), month, day⟩

def padded (width n : Nat) : String :=
  String.ofList ((Nat.toDigits 10 n).leftpad width '0')

def timestamp (seconds : Nat) : String :=
  let date := dateOfDay (seconds / secondsPerDay)
  let rest := seconds % secondsPerDay
  padded 4 date.year ++ "-" ++ padded 2 date.month ++ "-" ++ padded 2 date.day ++ "T"
    ++ padded 2 (rest / 3600) ++ ":" ++ padded 2 (rest / 60 % 60) ++ ":" ++ padded 2 (rest % 60)
    ++ "Z"

end FluentWrap.Clock
