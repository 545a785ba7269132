import TypedSql.Calendar.Date

/-!
# Instants

An instant is a date and a time of day in UTC, to the nanosecond.  A leap
second is the second after 59: its fraction is counted on from that of
second 59, so it has at least `1000000000` nanoseconds.
-/

namespace TypedSql

/-- A time of day: whole seconds since midnight, and nanoseconds into the
second. -/
structure TimeOfDay where
  second : Nat
  nanosecond : Nat
  second_lt : second < 86400
  nanosecond_lt : nanosecond < 2000000000
  leap_at_last_second : 1000000000 ≤ nanosecond → second % 60 = 59
deriving DecidableEq

namespace TimeOfDay

/-- The time with these parts, if there is one. -/
def ofParts? (second nanosecond : Nat) : Option TimeOfDay :=
  if within : second < 86400 ∧ nanosecond < 2000000000 then
    if leap : 1000000000 ≤ nanosecond → second % 60 = 59 then
      some
        { second := second
          nanosecond := nanosecond
          second_lt := within.1
          nanosecond_lt := within.2
          leap_at_last_second := leap }
    else
      none
  else
    none

/-- The time shown by a clock, where second 60 is the leap second. -/
def ofClock? (hour minute second nanosecond : Nat) : Option TimeOfDay :=
  if hour ≤ 23 ∧ minute ≤ 59 ∧ second ≤ 60 then
    if second = 60 then
      ofParts? (hour * 3600 + minute * 60 + 59) (nanosecond + 1000000000)
    else
      ofParts? (hour * 3600 + minute * 60 + second) nanosecond
  else
    none

def hour (time : TimeOfDay) : Nat := time.second / 3600

def minute (time : TimeOfDay) : Nat := time.second / 60 % 60

def isLeap (time : TimeOfDay) : Bool := 1000000000 ≤ time.nanosecond

/-- The second that a clock shows, which is 60 in a leap second. -/
def clockSecond (time : TimeOfDay) : Nat :=
  time.second % 60 + time.nanosecond / 1000000000

/-- Nanoseconds into the second that a clock shows. -/
def fraction (time : TimeOfDay) : Nat := time.nanosecond % 1000000000

end TimeOfDay

/-- A point in time, by its date and time of day in UTC. -/
structure Instant where
  date : Date
  time : TimeOfDay
deriving DecidableEq

namespace Instant

/-- The instant at which a clock that is ahead of UTC by `offset` minutes
shows this date and time.  An offset is less than a day. -/
def ofLocal? (date : Date) (time : TimeOfDay) (offset : Int) :
    Option Instant := do
  let second := (time.second : Int) - 60 * offset
  let (date, second) ←
    if second < 0 then
      date.previous?.map fun previous => (previous, second + 86400)
    else if 86400 ≤ second then
      date.next?.map fun following => (following, second - 86400)
    else
      some (date, second)
  let time ← TimeOfDay.ofParts? second.toNat time.nanosecond
  return { date := date, time := time }

end Instant

end TypedSql
