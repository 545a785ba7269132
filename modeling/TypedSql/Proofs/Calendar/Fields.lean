import TypedSql.Calendar.Written
import TypedSql.Proofs.Text.Digits

/-!
# Fields of written dates and instants

The parts of a date and of a time of day fit into the fields in which they are
written, and they determine the date and the time.
-/

namespace TypedSql

open Numeral

namespace Date

/-- A date in one of the years that are written without a sign. -/
def HasPlainYear (date : Date) : Prop :=
  0 ≤ date.year ∧ date.year ≤ 9999

instance (date : Date) : Decidable date.HasPlainYear :=
  inferInstanceAs (Decidable (0 ≤ date.year ∧ date.year ≤ 9999))

theorem yearDigits_of_plain {date : Date} (plain : date.HasPlainYear) :
    yearDigits date.year = padded 4 date.year.toNat :=
  if_pos plain

theorem yearDigits_of_signed {date : Date} (signed : ¬date.HasPlainYear) :
    yearDigits date.year =
      (if date.year < 0 then '-' else '+') :: padded 4 date.year.natAbs :=
  if_neg signed

theorem month_lt (date : Date) : date.month < 10 ^ 2 :=
  Nat.lt_of_le_of_lt date.valid.month_le (by decide)

theorem day_lt (date : Date) : date.day < 10 ^ 2 := by
  have within := date.valid.day_le
  have atMost : daysInMonth date.year date.month ≤ 31 := by
    unfold daysInMonth
    split
    · decide
    · decide
    · decide
    · decide
    · split <;> decide
    · decide
  omega

theorem ofParts?_self (date : Date) :
    ofParts? date.year date.month date.day = some date :=
  dif_pos date.valid

end Date

namespace TimeOfDay

theorem hour_lt (time : TimeOfDay) : time.hour < 10 ^ 2 := by
  have within := time.second_lt
  unfold hour
  omega

theorem minute_lt (time : TimeOfDay) : time.minute < 10 ^ 2 := by
  unfold minute
  omega

theorem clockSecond_lt (time : TimeOfDay) : time.clockSecond < 10 ^ 2 := by
  have within := time.nanosecond_lt
  unfold clockSecond
  omega

theorem fraction_lt (time : TimeOfDay) : time.fraction < 1000000000 :=
  Nat.mod_lt _ (by decide)

theorem ofParts?_self (time : TimeOfDay) :
    ofParts? time.second time.nanosecond = some time := by
  unfold ofParts?
  rw [dif_pos ⟨time.second_lt, time.nanosecond_lt⟩,
    dif_pos time.leap_at_last_second]

/-- A time of day is the one that the clock shows it as. -/
theorem ofClock?_self (time : TimeOfDay) :
    ofClock? time.hour time.minute time.clockSecond time.fraction =
      some time := by
  have within := time.second_lt
  have bounded := time.nanosecond_lt
  have hours : time.hour * 3600 + time.minute * 60 + time.second % 60 =
      time.second := by
    unfold hour minute
    omega
  have shown : time.hour ≤ 23 ∧ time.minute ≤ 59 ∧ time.clockSecond ≤ 60 := by
    unfold hour minute clockSecond
    omega
  unfold ofClock?
  rw [if_pos shown]
  by_cases leap : 1000000000 ≤ time.nanosecond
  · have last := time.leap_at_last_second leap
    have sixty : time.clockSecond = 60 := by
      unfold clockSecond
      omega
    have nanosecond : time.fraction + 1000000000 = time.nanosecond := by
      unfold fraction
      omega
    rw [last] at hours
    rw [if_pos sixty, hours, nanosecond, ofParts?_self]
  · have second : time.clockSecond = time.second % 60 := by
      unfold clockSecond
      omega
    have nanosecond : time.fraction = time.nanosecond := by
      unfold fraction
      omega
    have ordinary : time.second % 60 ≠ 60 := by omega
    rw [second, if_neg ordinary, hours, nanosecond, ofParts?_self]

theorem writtenClock_append (time : TimeOfDay) (rest : List Char) :
    time.writtenClock ++ rest =
      padded 2 time.hour ++ ':' :: (padded 2 time.minute ++
        ':' :: (padded 2 time.clockSecond ++ rest)) := by
  simp [writtenClock]

end TimeOfDay

/-- What is written for an instant, field by field. -/
theorem Instant.written_eq (instant : Instant) :
    instant.written =
      instant.date.written ++ 'T' :: (instant.time.writtenClock ++
        (TimeOfDay.writtenFraction instant.time.fraction ++
          '+' :: ['0', '0', ':', '0', '0'])) := by
  simp [written]

end TypedSql
