import TypedSql.Calendar.Instant

/-!
# Unix time

Days are numbered from the first of January 1970, and an instant is numbered by
the seconds since the midnight that begins that day.
-/

namespace TypedSql

/-- Days from the beginning of year zero to the beginning of a year: 365 for
each year between, and one for each leap year. -/
def daysBeforeYear (year : Int) : Int :=
  365 * year + (year + 3) / 4 - (year + 99) / 100 + (year + 399) / 400

/-- Days of a year before the beginning of a month. -/
def daysBeforeMonth (year : Int) : (month : Nat) → Nat
  | 0 => 0
  | 1 => 0
  | month + 1 => daysBeforeMonth year month + daysInMonth year month

namespace Date

/-- The number of a day, counted from the first of January 1970. -/
def dayNumber (date : Date) : Int :=
  daysBeforeYear date.year + daysBeforeMonth date.year date.month +
    date.day - 719529

/-- The month of a year in which a day of the year lies, and the day of the
month, starting the search at `month` with `day` days still to go. -/
def findMonth (year : Int) : (months : Nat) → (month day : Nat) → Nat × Nat
  | 0, month, day => (month, day)
  | months + 1, month, day =>
      if day ≤ daysInMonth year month then (month, day)
      else
        findMonth year months (month + 1) (day - daysInMonth year month)

/-- The day with a number, if its year is within the bounds.  A day lies in the
year of its average share of 400 years or in one beside it. -/
def ofDayNumber? (number : Int) : Option Date :=
  let day := number + 719528
  let estimate := day * 400 / 146097
  let year :=
    if day < daysBeforeYear estimate then estimate - 1
    else if daysBeforeYear (estimate + 1) ≤ day then estimate + 1
    else estimate
  let (month, day) :=
    findMonth year 11 1 ((day - daysBeforeYear year).toNat + 1)
  ofParts? year month day

end Date

namespace Instant

/-- Whole seconds since the beginning of 1970, rounded down. -/
def unixSeconds (instant : Instant) : Int :=
  instant.date.dayNumber * 86400 + instant.time.second

/-- The instant with a number of seconds and nanoseconds, if there is one. -/
def ofUnix? (seconds : Int) (nanoseconds : Nat) : Option Instant := do
  let date ← Date.ofDayNumber? (seconds / 86400)
  let time ← TimeOfDay.ofParts? (seconds % 86400).toNat nanoseconds
  return { date := date, time := time }

end Instant

end TypedSql
