import TypedSql.Proofs.Calendar.DayOrder
import TypedSql.Proofs.Calendar.Fields
import TypedSql.Proofs.Text.ByteOrder

/-!
# Order of written dates and instants

In the years that are written with four digits, dates and instants are in the
bytewise order of their texts.  All parts of an instant's text have a fixed
width apart from its fraction.  A fraction goes on in groups of three digits
while anything remains of it, and what stands behind it begins with a
character before all digits, so the fraction that ends first is the lesser.
-/

namespace TypedSql

open Numeral

namespace Date

theorem length_yearDigits {date : Date} (plain : date.HasPlainYear) :
    (yearDigits date.year).length = 4 := by
  have upper := plain.2
  rw [yearDigits_of_plain plain]
  exact length_padded (by decide) (by omega)

theorem length_written {date : Date} (plain : date.HasPlainYear) :
    date.written.length = 10 := by
  unfold written
  simp only [List.length_append, List.length_cons, length_yearDigits plain,
    length_padded (Nat.zero_lt_succ 1) date.month_lt,
    length_padded (Nat.zero_lt_succ 1) date.day_lt]

theorem ascii_written (date : Date) : Ascii date.written := by
  have year : Ascii (yearDigits date.year) := by
    unfold yearDigits
    split
    · exact (allDigits_padded _ _).ascii
    · apply ascii_cons.mpr
      refine ⟨?_, (allDigits_padded _ _).ascii⟩
      split <;> decide
  unfold written
  simp only [ascii_append, ascii_cons]
  exact ⟨⟨year, by decide, (allDigits_padded _ _).ascii⟩, by decide,
    (allDigits_padded _ _).ascii⟩

theorem compare_yearDigits {left right : Date} (leftPlain : left.HasPlainYear)
    (rightPlain : right.HasPlainYear) :
    compare (yearDigits left.year) (yearDigits right.year) =
      compare left.year right.year := by
  obtain ⟨leftLower, leftUpper⟩ := leftPlain
  obtain ⟨rightLower, rightUpper⟩ := rightPlain
  rw [yearDigits_of_plain ⟨leftLower, leftUpper⟩,
    yearDigits_of_plain ⟨rightLower, rightUpper⟩,
    compare_padded (by decide) (by omega) (by omega)]
  exact (compare_of_sub_eq (by omega)).symm

theorem compare_written {left right : Date} (leftPlain : left.HasPlainYear)
    (rightPlain : right.HasPlainYear) :
    compare left.written right.written = left.chronological right := by
  have yearLength : (yearDigits left.year).length =
      (yearDigits right.year).length :=
    (length_yearDigits leftPlain).trans (length_yearDigits rightPlain).symm
  have monthLength : (yearDigits left.year ++ '-' :: padded 2 left.month).length
      = (yearDigits right.year ++ '-' :: padded 2 right.month).length := by
    simp only [List.length_append, List.length_cons, yearLength,
      length_padded (Nat.zero_lt_succ 1) left.month_lt,
      length_padded (Nat.zero_lt_succ 1) right.month_lt]
  unfold written
  rw [compare_separated '-' monthLength, compare_separated '-' yearLength,
    compare_yearDigits leftPlain rightPlain,
    compare_padded (by decide) left.month_lt right.month_lt,
    compare_padded (by decide) left.day_lt right.day_lt,
    Ordering.then_assoc, chronological_eq]

theorem bytewise_text {left right : Date} (leftPlain : left.HasPlainYear)
    (rightPlain : right.HasPlainYear) :
    bytewise left.text right.text = left.chronological right :=
  (bytewise_ofList left.ascii_written right.ascii_written).trans
    (compare_written leftPlain rightPlain)

end Date

namespace TimeOfDay

/-- Groups of three digits of a number below `1000 ^ count`, while anything
remains of it. -/
def groups : (count number : Nat) → List Char
  | 0, _ => []
  | count + 1, number =>
      if number = 0 then []
      else
        padded 3 (number / 1000 ^ count) ++ groups count (number % 1000 ^ count)

theorem groups_zero (count : Nat) : groups count 0 = [] := by
  cases count with
  | zero => rfl
  | succ count => exact if_pos rfl

theorem groups_succ (count : Nat) {number : Nat} (remains : number ≠ 0) :
    groups (count + 1) number =
      padded 3 (number / 1000 ^ count) ++
        groups count (number % 1000 ^ count) :=
  if_neg remains

theorem writtenFraction_eq_groups {nanoseconds : Nat}
    (positive : nanoseconds ≠ 0) (fits : nanoseconds < 1000000000) :
    writtenFraction nanoseconds = '.' :: groups 3 nanoseconds := by
  have first : groups 3 nanoseconds =
      padded 3 (nanoseconds / 1000000) ++ groups 2 (nanoseconds % 1000000) :=
    groups_succ 2 positive
  unfold writtenFraction
  rw [if_neg positive, first]
  by_cases noMicros : nanoseconds % 1000000 = 0
  · rw [if_pos noMicros, noMicros, groups_zero, List.append_nil]
  · have second : groups 2 (nanoseconds % 1000000) =
        padded 3 (nanoseconds % 1000000 / 1000) ++
          groups 1 (nanoseconds % 1000000 % 1000) :=
      groups_succ 1 noMicros
    have micros : padded 6 (nanoseconds / 1000) =
        padded 3 (nanoseconds / 1000 / 1000) ++
          padded 3 (nanoseconds / 1000 % 1000) :=
      padded_add 3 3 (by decide) (by decide) (by omega)
    rw [if_neg noMicros, second]
    by_cases noNanos : nanoseconds % 1000 = 0
    · have remainder : nanoseconds % 1000000 % 1000 = 0 := by omega
      have millis : nanoseconds / 1000 / 1000 = nanoseconds / 1000000 := by
        omega
      have middle : nanoseconds / 1000 % 1000 =
          nanoseconds % 1000000 / 1000 := by omega
      rw [if_pos noNanos, remainder, groups_zero, List.append_nil, micros,
        millis, middle]
    · have remainder : nanoseconds % 1000000 % 1000 ≠ 0 := by omega
      have third : groups 1 (nanoseconds % 1000000 % 1000) =
          padded 3 (nanoseconds % 1000000 % 1000) := by
        rw [groups_succ 0 remainder, groups, List.append_nil, Nat.pow_zero,
          Nat.div_one]
      have whole : padded 9 nanoseconds =
          padded 3 (nanoseconds / 1000000) ++
            padded 6 (nanoseconds % 1000000) :=
        padded_add 3 6 (by decide) (by decide) fits
      have rest : padded 6 (nanoseconds % 1000000) =
          padded 3 (nanoseconds % 1000000 / 1000) ++
            padded 3 (nanoseconds % 1000000 % 1000) :=
        padded_add 3 3 (by decide) (by decide) (by omega)
      rw [if_neg noNanos, third, whole, rest]

/-- A text with a sign in front comes before all that begin with a digit. -/
theorem compare_plus_digits (tail rest : List Char) {digits : List Char}
    (allDigits : AllDigits digits) (nonempty : digits ≠ []) :
    compare ('+' :: tail) (digits ++ rest) = .lt := by
  cases digits with
  | nil => exact (nonempty rfl).elim
  | cons digit digits =>
      have lower := (toNat_of_isDigit (allDigits digit List.mem_cons_self)).1
      have before : compare '+' digit = .lt := by
        rw [compare_toNat]
        exact Nat.compare_eq_lt.mpr (Nat.lt_of_lt_of_le (by decide) lower)
      rw [List.cons_append, List.compare_cons_cons, before]
      rfl

theorem compare_plus_groups (tail : List Char) (count : Nat) {number : Nat}
    (remains : number ≠ 0) :
    compare ('+' :: tail) (groups (count + 1) number ++ '+' :: tail) = .lt := by
  rw [groups_succ count remains, List.append_assoc]
  exact compare_plus_digits tail _ (allDigits_padded _ _) (padded_ne_nil _ _)

theorem compare_groups (tail : List Char) {count left right : Nat}
    (leftFits : left < 1000 ^ count) (rightFits : right < 1000 ^ count) :
    compare (groups count left ++ '+' :: tail)
        (groups count right ++ '+' :: tail) = compare left right := by
  induction count generalizing left right with
  | zero =>
      rw [Nat.lt_one_iff.mp leftFits, Nat.lt_one_iff.mp rightFits,
        Std.ReflOrd.compare_self, Std.ReflOrd.compare_self]
  | succ count induction =>
      -- Of nothing but zeros no group is written, so the sign stands where
      -- the other text has a digit.
      apply compare_texts fun number => groups (count + 1) number ++ '+' :: tail
      · intro remains
        rw [groups_zero]
        exact compare_plus_groups tail count remains
      · intro remains
        rw [groups_zero]
        exact compare_plus_groups tail count remains
      · intro leftRemains rightRemains
        have unitPositive : 0 < 1000 ^ count := Nat.pow_pos (by decide)
        have leftGroup : left / 1000 ^ count < 10 ^ 3 :=
          Nat.div_lt_of_lt_mul leftFits
        have rightGroup : right / 1000 ^ count < 10 ^ 3 :=
          Nat.div_lt_of_lt_mul rightFits
        have sameLength :=
          (length_padded (Nat.zero_lt_succ 2) leftGroup).trans
            (length_padded (Nat.zero_lt_succ 2) rightGroup).symm
        have leftRest := Nat.mod_lt left unitPositive
        have rightRest := Nat.mod_lt right unitPositive
        rw [groups_succ count leftRemains, groups_succ count rightRemains,
          List.append_assoc, List.append_assoc, compare_append sameLength,
          compare_padded (by decide) leftGroup rightGroup,
          induction leftRest rightRest,
          ← compare_mul_add leftRest rightRest, Nat.div_add_mod',
          Nat.div_add_mod']

theorem compare_plus_fraction (tail : List Char) {nanoseconds : Nat}
    (positive : nanoseconds ≠ 0) (fits : nanoseconds < 1000000000) :
    compare ('+' :: tail) (writtenFraction nanoseconds ++ '+' :: tail) =
      .lt := by
  rw [writtenFraction_eq_groups positive fits, List.cons_append,
    List.compare_cons_cons]
  rfl

theorem compare_writtenFraction (tail : List Char) {left right : Nat}
    (leftFits : left < 1000000000) (rightFits : right < 1000000000) :
    compare (writtenFraction left ++ '+' :: tail)
        (writtenFraction right ++ '+' :: tail) = compare left right := by
  apply compare_texts fun number => writtenFraction number ++ '+' :: tail
  · intro positive
    exact compare_plus_fraction tail positive leftFits
  · intro positive
    exact compare_plus_fraction tail positive rightFits
  · intro leftPositive rightPositive
    rw [writtenFraction_eq_groups leftPositive leftFits,
      writtenFraction_eq_groups rightPositive rightFits, List.cons_append,
      List.cons_append, List.compare_cons_cons, Std.ReflOrd.compare_self,
      Ordering.then]
    exact compare_groups tail leftFits rightFits

theorem length_writtenClock (time : TimeOfDay) :
    time.writtenClock.length = 8 := by
  unfold writtenClock
  simp only [List.length_append, List.length_cons,
    length_padded (Nat.zero_lt_succ 1) time.hour_lt,
    length_padded (Nat.zero_lt_succ 1) time.minute_lt,
    length_padded (Nat.zero_lt_succ 1) time.clockSecond_lt]

theorem ascii_writtenClock (time : TimeOfDay) : Ascii time.writtenClock := by
  unfold writtenClock
  simp only [ascii_append, ascii_cons]
  exact ⟨⟨(allDigits_padded _ _).ascii, by decide,
    (allDigits_padded _ _).ascii⟩, by decide, (allDigits_padded _ _).ascii⟩

theorem ascii_writtenFraction (nanoseconds : Nat) :
    Ascii (writtenFraction nanoseconds) := by
  have point (width number : Nat) : Ascii ('.' :: padded width number) :=
    ascii_cons.mpr ⟨by decide, (allDigits_padded _ _).ascii⟩
  unfold writtenFraction
  split
  · intro character member
    cases member
  · split
    · exact point _ _
    · split
      · exact point _ _
      · exact point _ _

/-- The order of what a clock shows, apart from fractions. -/
theorem compare_writtenClock (left right : TimeOfDay) :
    compare left.writtenClock right.writtenClock =
      (compare left.hour right.hour).then
        ((compare left.minute right.minute).then
          (compare left.clockSecond right.clockSecond)) := by
  have hourLength : (padded 2 left.hour).length =
      (padded 2 right.hour).length :=
    (length_padded (by decide) left.hour_lt).trans
      (length_padded (by decide) right.hour_lt).symm
  have minuteLength : (padded 2 left.hour ++ ':' :: padded 2 left.minute).length
      = (padded 2 right.hour ++ ':' :: padded 2 right.minute).length := by
    simp only [List.length_append, List.length_cons, hourLength,
      length_padded (Nat.zero_lt_succ 1) left.minute_lt,
      length_padded (Nat.zero_lt_succ 1) right.minute_lt]
  unfold writtenClock
  rw [compare_separated ':' minuteLength, compare_separated ':' hourLength,
    compare_padded (by decide) left.hour_lt right.hour_lt,
    compare_padded (by decide) left.minute_lt right.minute_lt,
    compare_padded (by decide) left.clockSecond_lt right.clockSecond_lt,
    Ordering.then_assoc]

/-- The seconds of a day are in the order of hours, minutes and seconds. -/
theorem compare_second (left right : TimeOfDay) :
    compare left.second right.second =
      (compare left.hour right.hour).then
        ((compare left.minute right.minute).then
          (compare (left.second % 60) (right.second % 60))) := by
  have hourOf (time : TimeOfDay) : time.hour = time.second / 60 / 60 :=
    (Nat.div_div_eq_div_mul time.second 60 60).symm
  have inMinute (time : TimeOfDay) : time.second % 60 < 60 :=
    Nat.mod_lt _ (by decide)
  have inHour (time : TimeOfDay) : time.minute < 60 :=
    Nat.mod_lt _ (by decide)
  rw [← Ordering.then_assoc, ← compare_mul_add (inHour left) (inHour right),
    ← compare_mul_add (inMinute left) (inMinute right), hourOf, hourOf]
  unfold minute
  rw [Nat.div_add_mod', Nat.div_add_mod', Nat.div_add_mod', Nat.div_add_mod']

/-- A leap second is the last of its minute, so the second that a clock shows
and its fraction decide as the second and all its nanoseconds do. -/
theorem compare_clockSecond (left right : TimeOfDay) :
    (compare left.clockSecond right.clockSecond).then
        (compare left.fraction right.fraction) =
      (compare (left.second % 60) (right.second % 60)).then
        (compare left.nanosecond right.nanosecond) := by
  -- Either side compares single numbers, of nanoseconds since the minute began;
  -- on the right every second is given room for a leap second.
  rw [← compare_mul_add left.fraction_lt right.fraction_lt,
    ← compare_mul_add left.nanosecond_lt right.nanosecond_lt]
  unfold clockSecond fraction
  simp only [Nat.compare_eq_ite_lt]
  have less (one other : TimeOfDay) :
      (one.second % 60 + one.nanosecond / 1000000000) * 1000000000 +
            one.nanosecond % 1000000000 <
          (other.second % 60 + other.nanosecond / 1000000000) * 1000000000 +
            other.nanosecond % 1000000000 ↔
        one.second % 60 * 2000000000 + one.nanosecond <
          other.second % 60 * 2000000000 + other.nanosecond := by
    have oneLeap := one.leap_at_last_second
    have otherLeap := other.leap_at_last_second
    have oneBound := one.nanosecond_lt
    have otherBound := other.nanosecond_lt
    omega
  simp only [less]

end TimeOfDay

namespace Instant

theorem ascii_written (instant : Instant) : Ascii instant.written := by
  rw [written_eq, ascii_append, ascii_cons, ascii_append, ascii_append]
  exact ⟨instant.date.ascii_written, by decide,
    instant.time.ascii_writtenClock, TimeOfDay.ascii_writtenFraction _,
    by decide⟩

theorem compare_written {left right : Instant}
    (leftPlain : left.date.HasPlainYear)
    (rightPlain : right.date.HasPlainYear) :
    compare left.written right.written = left.chronological right := by
  have dateLength : left.date.written.length = right.date.written.length :=
    (Date.length_written leftPlain).trans (Date.length_written rightPlain).symm
  have clockLength : left.time.writtenClock.length =
      right.time.writtenClock.length :=
    left.time.length_writtenClock.trans right.time.length_writtenClock.symm
  unfold chronological
  rw [written_eq, written_eq, compare_separated 'T' dateLength,
    compare_append clockLength, Date.compare_written leftPlain rightPlain,
    TimeOfDay.compare_writtenClock,
    TimeOfDay.compare_writtenFraction _ left.time.fraction_lt
      right.time.fraction_lt,
    compare_unixSeconds, TimeOfDay.compare_second]
  simp only [Ordering.then_assoc, TimeOfDay.compare_clockSecond]

theorem bytewise_text {left right : Instant}
    (leftPlain : left.date.HasPlainYear)
    (rightPlain : right.date.HasPlainYear) :
    bytewise left.text right.text = left.chronological right :=
  (bytewise_ofList left.ascii_written right.ascii_written).trans
    (compare_written leftPlain rightPlain)

end Instant

namespace Date

theorem eq_of_chronological {left right : Date}
    (same : left.chronological right = .eq) : left = right := by
  rw [chronological_eq, Ordering.then_eq_eq, Ordering.then_eq_eq] at same
  obtain ⟨sameYear, sameMonth, sameDay⟩ := same
  cases left
  cases right
  cases Int.compare_eq_eq.mp sameYear
  cases Nat.compare_eq_eq.mp sameMonth
  cases Nat.compare_eq_eq.mp sameDay
  rfl

end Date

namespace Instant

theorem eq_of_chronological {left right : Instant}
    (same : left.chronological right = .eq) : left = right := by
  unfold chronological at same
  rw [compare_unixSeconds, Ordering.then_eq_eq, Ordering.then_eq_eq] at same
  obtain ⟨⟨sameDate, sameSecond⟩, sameNanosecond⟩ := same
  obtain ⟨leftDate, ⟨leftSecond, leftNanosecond, _, _, _⟩⟩ := left
  obtain ⟨rightDate, ⟨rightSecond, rightNanosecond, _, _, _⟩⟩ := right
  cases Date.eq_of_chronological sameDate
  cases Nat.compare_eq_eq.mp sameSecond
  cases Nat.compare_eq_eq.mp sameNanosecond
  rfl

end Instant

end TypedSql
