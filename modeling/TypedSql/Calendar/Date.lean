/-!
# Calendar dates

Dates of the proleptic Gregorian calendar.  Year zero and negative years
exist, and the years are bounded on both sides.
-/

namespace TypedSql

/-- Every fourth year is a leap year, but of the centuries only every
fourth. -/
def isLeapYear (year : Int) : Bool :=
  year % 4 = 0 && (year % 100 ≠ 0 || year % 400 = 0)

def daysInMonth (year : Int) (month : Nat) : Nat :=
  match month with
  | 4 | 6 | 9 | 11 => 30
  | 2 => if isLeapYear year then 29 else 28
  | _ => 31

namespace Date

def leastYear : Int := -262143

def greatestYear : Int := 262142

/-- A day that exists, in a year within the bounds. -/
structure Exists (year : Int) (month day : Nat) : Prop where
  year_ge : leastYear ≤ year
  year_le : year ≤ greatestYear
  month_pos : 1 ≤ month
  month_le : month ≤ 12
  day_pos : 1 ≤ day
  day_le : day ≤ daysInMonth year month

theorem exists_iff {year : Int} {month day : Nat} :
    Exists year month day ↔
      (leastYear ≤ year ∧ year ≤ greatestYear) ∧ (1 ≤ month ∧ month ≤ 12) ∧
        1 ≤ day ∧ day ≤ daysInMonth year month :=
  ⟨fun holds => ⟨⟨holds.year_ge, holds.year_le⟩,
      ⟨holds.month_pos, holds.month_le⟩, holds.day_pos, holds.day_le⟩,
    fun ⟨⟨yearGe, yearLe⟩, ⟨monthPos, monthLe⟩, dayPos, dayLe⟩ =>
      ⟨yearGe, yearLe, monthPos, monthLe, dayPos, dayLe⟩⟩

instance (year : Int) (month day : Nat) : Decidable (Exists year month day) :=
  decidable_of_iff _ exists_iff.symm

end Date

/-- A day of the calendar. -/
structure Date where
  year : Int
  month : Nat
  day : Nat
  valid : Date.Exists year month day
deriving DecidableEq

namespace Date

/-- The date with these parts, if there is one. -/
def ofParts? (year : Int) (month day : Nat) : Option Date :=
  if valid : Exists year month day then
    some { year := year, month := month, day := day, valid := valid }
  else
    none

/-- The following day, unless it lies beyond the last year. -/
def next? (date : Date) : Option Date :=
  if date.day < daysInMonth date.year date.month then
    ofParts? date.year date.month (date.day + 1)
  else if date.month < 12 then
    ofParts? date.year (date.month + 1) 1
  else
    ofParts? (date.year + 1) 1 1

/-- The preceding day, unless it lies before the first year. -/
def previous? (date : Date) : Option Date :=
  if 1 < date.day then
    ofParts? date.year date.month (date.day - 1)
  else if 1 < date.month then
    ofParts? date.year (date.month - 1)
      (daysInMonth date.year (date.month - 1))
  else
    ofParts? (date.year - 1) 12 31

end Date

end TypedSql
