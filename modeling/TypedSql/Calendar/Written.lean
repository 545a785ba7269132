import TypedSql.Calendar.Instant
import TypedSql.Text.Numeral

/-!
# Written dates and instants

A date is written `YYYY-MM-DD`.  A year from 0 to 9999 has four digits; any
other has a sign, and at least four digits.  An instant is written in the
format of RFC 3339 with the offset `+00:00`, and its fraction is left out when
zero and otherwise has three, six or nine digits, whichever suffice.
-/

namespace TypedSql

open Numeral (padded)

def yearDigits (year : Int) : List Char :=
  if 0 ≤ year ∧ year ≤ 9999 then padded 4 year.toNat
  else (if year < 0 then '-' else '+') :: padded 4 year.natAbs

namespace Date

def written (date : Date) : List Char :=
  yearDigits date.year ++ '-' :: padded 2 date.month ++
    '-' :: padded 2 date.day

def text (date : Date) : String :=
  String.ofList date.written

end Date

namespace TimeOfDay

/-- The fraction of a second with its point, or nothing when it is zero. -/
def writtenFraction (nanoseconds : Nat) : List Char :=
  if nanoseconds = 0 then []
  else if nanoseconds % 1000000 = 0 then
    '.' :: padded 3 (nanoseconds / 1000000)
  else if nanoseconds % 1000 = 0 then
    '.' :: padded 6 (nanoseconds / 1000)
  else
    '.' :: padded 9 nanoseconds

/-- Hours, minutes and seconds as a clock shows them. -/
def writtenClock (time : TimeOfDay) : List Char :=
  padded 2 time.hour ++ ':' :: padded 2 time.minute ++
    ':' :: padded 2 time.clockSecond

end TimeOfDay

namespace Instant

def written (instant : Instant) : List Char :=
  instant.date.written ++ 'T' :: instant.time.writtenClock ++
    TimeOfDay.writtenFraction instant.time.fraction ++
    ['+', '0', '0', ':', '0', '0']

def text (instant : Instant) : String :=
  String.ofList instant.written

end Instant

end TypedSql
