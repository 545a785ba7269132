import TypedSql.Proofs.Calendar.ReadBack

/-!
# Texts without an offset

The storage engine writes an instant in UTC with a space between date and time
and without an offset.  The internet reader gets as far as the missing offset
and gives up; the lenient reader takes the text as it stands.
-/

namespace TypedSql

open Numeral

namespace TimeOfDay

/-- What may stand behind the seconds: a point and all nine digits of the
fraction, or nothing if the fraction is zero. -/
inductive ShowsFraction (time : TimeOfDay) : List Char → Prop where
  | digits : ShowsFraction time ('.' :: padded 9 time.fraction)
  | nothing : time.fraction = 0 → ShowsFraction time []

theorem scanFraction?_shown {time : TimeOfDay} {fraction : List Char}
    (shown : time.ShowsFraction fraction) :
    scanFraction? fraction = some (time.fraction, []) := by
  cases shown with
  | digits =>
      have atEnd : NoDigitAhead [] := trivial
      have scanned := scanFraction?_padded (Nat.zero_lt_succ 8)
        (Nat.le_refl 9) time.fraction_lt atEnd
      rw [List.append_nil, Nat.sub_self, Nat.pow_zero, Nat.mul_one] at scanned
      exact scanned
  | nothing zero =>
      rw [zero]
      rfl

end TimeOfDay

namespace Instant

def offsetFree (instant : Instant) (fraction : List Char) : List Char :=
  instant.date.written ++ ' ' :: (instant.time.writtenClock ++ fraction)

end Instant

theorem Internet.readInstant?_offsetFree {instant : Instant}
    {fraction : List Char} (shown : instant.time.ShowsFraction fraction) :
    readInstant? (instant.offsetFree fraction) = none := by
  have separator (rest : List Char) :
      skipSeparator? (' ' :: rest) = some rest := rfl
  have noOffset : scanOffset? [] = none := rfl
  have scanned := TimeOfDay.scan?_written findsFields
    (TimeOfDay.scanFraction?_shown shown)
  unfold readInstant? Instant.offsetFree
  by_cases plain : instant.date.HasPlainYear
  · rw [scanDate?_written plain]
    simp only [Option.bind_eq_bind, Option.bind_some, separator, scanned,
      noOffset, Option.bind_none]
  · rw [scanDate?_signed plain]
    rfl

namespace Lenient

theorem skipBlanks_writtenClock (time : TimeOfDay) (rest : List Char) :
    skipBlanks (' ' :: (time.writtenClock ++ rest)) =
      time.writtenClock ++ rest := by
  have space : isBlank ' ' = true := by decide
  have noBlank := skipBlanks_digits
    (':' :: (padded 2 time.minute ++ ':' :: (padded 2 time.clockSecond ++
      rest)))
    (allDigits_padded 2 time.hour) (padded_ne_nil 2 time.hour)
  rw [TimeOfDay.writtenClock_append]
  unfold skipBlanks at noBlank ⊢
  rw [List.dropWhile_cons_of_pos space, noBlank]

theorem readInstant?_offsetFree {instant : Instant} {fraction : List Char}
    (shown : instant.time.ShowsFraction fraction) :
    readInstant? (instant.offsetFree fraction) = some instant := by
  have scanned := TimeOfDay.scan?_written findsFields
    (TimeOfDay.scanFraction?_shown shown)
  unfold readInstant? Instant.offsetFree
  rw [scanDate?_written]
  simp only [Option.bind_eq_bind, Option.bind_some, skipBlanks_writtenClock,
    scanned]
  rfl

end Lenient

namespace Instant

/-- An instant of any year is read back from its text without an offset. -/
theorem read?_offsetFree {instant : Instant} {fraction : List Char}
    (shown : instant.time.ShowsFraction fraction) :
    read? (String.ofList (instant.offsetFree fraction)) = some instant := by
  unfold read?
  rw [String.toList_ofList, Internet.readInstant?_offsetFree shown]
  exact Lenient.readInstant?_offsetFree shown

end Instant

end TypedSql
