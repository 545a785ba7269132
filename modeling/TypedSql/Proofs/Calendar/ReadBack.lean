import TypedSql.Calendar.Reading
import TypedSql.Proofs.Calendar.Fields

/-!
# Reading what is written

The lenient reader finds every date in the text that is written for it.  The
internet reader finds an instant in its text where the year has four digits.
A text with a signed year is in neither grammar: the internet format has no
sign, and the lenient one no letter between date and time.
-/

namespace TypedSql

open Numeral

theorem skip?_same (mark : Char) (rest : List Char) :
    skip? mark (mark :: rest) = some rest :=
  if_pos rfl

theorem not_isBlank_of_isDigit {digit : Char} (isDigit : digit.isDigit) :
    isBlank digit = false := by
  obtain ⟨lower, upper⟩ := toNat_of_isDigit isDigit
  have outside : ∀ code ∈ blankCodes, code < 48 ∨ 57 < code := by decide
  apply Bool.eq_false_iff.mpr
  intro blank
  rcases outside _ (List.contains_iff_mem.mp blank) with below | above
  · omega
  · omega

theorem skipBlanks_digits {digits : List Char} (rest : List Char)
    (allDigits : AllDigits digits) (nonempty : digits ≠ []) :
    skipBlanks (digits ++ rest) = digits ++ rest := by
  cases digits with
  | nil => exact (nonempty rfl).elim
  | cons digit digits =>
      have noBlank := not_isBlank_of_isDigit
        (allDigits digit List.mem_cons_self)
      unfold skipBlanks
      rw [List.cons_append, List.dropWhile_cons_of_neg]
      exact Bool.eq_false_iff.mp noBlank

namespace TimeOfDay

theorem fractionValue_padded {width number : Nat} (positive : 0 < width)
    (atMostNine : width ≤ 9) (fits : number < 10 ^ width) :
    fractionValue (padded width number) = number * 10 ^ (9 - width) := by
  have length := length_padded positive fits
  have zeros : value (List.replicate (9 - width) '0') = 0 := by simp [value]
  unfold fractionValue
  rw [List.take_of_length_le (by omega), List.rightpad, value_append,
    value_padded, length, zeros, List.length_replicate, Nat.add_zero]

theorem scanFraction?_point {digits rest : List Char}
    (allDigits : AllDigits digits) (nonempty : digits ≠ [])
    (ends : NoDigitAhead rest) :
    scanFraction? ('.' :: digits ++ rest) =
      some (fractionValue digits, rest) := by
  have room : digits.length ≤ (digits ++ rest).length := by
    rw [List.length_append]
    exact Nat.le_add_right _ _
  rw [List.cons_append, scanFraction?,
    takeDigits_append allDigits room (.inr ends)]
  cases digits with
  | nil => exact (nonempty rfl).elim
  | cons digit digits => rfl

theorem scanFraction?_padded {width number : Nat} {rest : List Char}
    (positive : 0 < width) (atMostNine : width ≤ 9)
    (fits : number < 10 ^ width) (ends : NoDigitAhead rest) :
    scanFraction? ('.' :: padded width number ++ rest) =
      some (number * 10 ^ (9 - width), rest) := by
  rw [scanFraction?_point (allDigits_padded _ _) (padded_ne_nil _ _) ends,
    fractionValue_padded positive atMostNine fits]

/-- Of the layouts of a fraction, each is read as the number that it was
written for. -/
theorem scanFraction?_written {nanoseconds : Nat}
    (fits : nanoseconds < 1000000000) (rest : List Char) :
    scanFraction? (writtenFraction nanoseconds ++ '+' :: rest) =
      some (nanoseconds, '+' :: rest) := by
  have ends : NoDigitAhead ('+' :: rest) := Bool.false_ne_true
  unfold writtenFraction
  by_cases zero : nanoseconds = 0
  · rw [if_pos zero, zero]
    rfl
  · rw [if_neg zero]
    by_cases millis : nanoseconds % 1000000 = 0
    · rw [if_pos millis, scanFraction?_padded (by decide) (by decide)
        (by omega) ends]
      have same : nanoseconds / 1000000 * 10 ^ (9 - 3) = nanoseconds := by
        omega
      rw [same]
    · rw [if_neg millis]
      by_cases micros : nanoseconds % 1000 = 0
      · rw [if_pos micros, scanFraction?_padded (by decide) (by decide)
          (by omega) ends]
        have same : nanoseconds / 1000 * 10 ^ (9 - 6) = nanoseconds := by
          omega
        rw [same]
      · rw [if_neg micros, scanFraction?_padded (by decide) (by decide)
          fits ends, Nat.sub_self, Nat.pow_zero, Nat.mul_one]

end TimeOfDay

/-- The scanner finds every number that is written in two digits. -/
def FindsFields (field? : List Char → Option (Nat × List Char)) : Prop :=
  ∀ {number : Nat}, number < 10 ^ 2 → ∀ rest,
    field? (padded 2 number ++ rest) = some (number, rest)

/-- A clock is read off its text if the fraction behind it is. -/
theorem TimeOfDay.scan?_written
    {field? : List Char → Option (Nat × List Char)}
    (finds : FindsFields field?) {time : TimeOfDay} {text rest : List Char}
    (fraction : scanFraction? text = some (time.fraction, rest)) :
    scan? field? (time.writtenClock ++ text) = some (time, rest) := by
  unfold scan?
  rw [writtenClock_append, finds time.hour_lt]
  simp only [Option.bind_eq_bind, Option.bind_some, skip?_same,
    finds time.minute_lt, finds time.clockSecond_lt, fraction, ofClock?_self]
  rfl

/-- A date is read off its text if the year in front is. -/
theorem Date.scan?_written {year? : List Char → Option (Int × List Char)}
    {field? : List Char → Option (Nat × List Char)}
    (finds : FindsFields field?) {date : Date}
    (year : ∀ rest, year? (yearDigits date.year ++ '-' :: rest) =
      some (date.year, '-' :: rest))
    (rest : List Char) :
    scan? year? field? (date.written ++ rest) = some (date, rest) := by
  have layout : date.written ++ rest =
      yearDigits date.year ++ '-' :: (padded 2 date.month ++
        '-' :: (padded 2 date.day ++ rest)) := by
    simp [written]
  unfold scan?
  rw [layout, year]
  simp only [Option.bind_eq_bind, Option.bind_some, skip?_same,
    finds date.month_lt, finds date.day_lt, ofParts?_self]
  rfl

namespace Lenient

theorem findsFields : FindsFields scanField? := by
  intro number fits rest
  have length := length_padded (Nat.zero_lt_succ 1) fits
  unfold scanField?
  rw [skipBlanks_digits rest (allDigits_padded 2 number)
      (padded_ne_nil 2 number),
    scan?_digits (padded_ne_nil 2 number) (allDigits_padded 2 number)
      (Nat.le_of_eq length) (.inl length), value_padded]

theorem digits_append_ne {digits rest signed : List Char} {sign : Char}
    (allDigits : AllDigits digits) (nonempty : digits ≠ [])
    (noDigit : sign.isDigit = false) : digits ++ rest ≠ sign :: signed := by
  intro same
  cases digits with
  | nil => exact nonempty rfl
  | cons digit digits =>
      have isDigit := allDigits digit List.mem_cons_self
      rw [(List.cons.inj same).1, noDigit] at isDigit
      cases isDigit

/-- Without a sign a year is at most four digits long. -/
theorem scanYear?_digits {digits rest : List Char}
    (allDigits : AllDigits digits) (nonempty : digits ≠ [])
    (room : digits.length ≤ 4) (ends : NoDigitAhead rest) :
    scanYear? (digits ++ rest) = some ((value digits : Int), rest) := by
  unfold scanYear?
  rw [skipBlanks_digits rest allDigits nonempty]
  split
  · next same =>
    exact (digits_append_ne allDigits nonempty rfl same).elim
  · next same =>
    exact (digits_append_ne allDigits nonempty rfl same).elim
  · rw [scan?_digits nonempty allDigits room (.inr ends)]
    rfl

theorem scan?_all {digits rest : List Char} (allDigits : AllDigits digits)
    (nonempty : digits ≠ []) (ends : NoDigitAhead rest) :
    scan? (digits ++ rest).length (digits ++ rest) =
      some (value digits, rest) := by
  apply scan?_digits nonempty allDigits _ (.inr ends)
  rw [List.length_append]
  exact Nat.le_add_right _ _

theorem scanYear?_minus {digits rest : List Char}
    (allDigits : AllDigits digits) (nonempty : digits ≠ [])
    (ends : NoDigitAhead rest) :
    scanYear? ('-' :: digits ++ rest) = some (-(value digits : Int), rest) := by
  change (scan? (digits ++ rest).length (digits ++ rest)).map _ = _
  rw [scan?_all allDigits nonempty ends]
  rfl

theorem scanYear?_plus {digits rest : List Char}
    (allDigits : AllDigits digits) (nonempty : digits ≠ [])
    (ends : NoDigitAhead rest) :
    scanYear? ('+' :: digits ++ rest) = some ((value digits : Int), rest) := by
  change (scan? (digits ++ rest).length (digits ++ rest)).map _ = _
  rw [scan?_all allDigits nonempty ends]
  rfl

theorem scanYear?_yearDigits (year : Int) {rest : List Char}
    (ends : NoDigitAhead rest) :
    scanYear? (yearDigits year ++ rest) = some (year, rest) := by
  unfold yearDigits
  by_cases plain : 0 ≤ year ∧ year ≤ 9999
  · have length : (padded 4 year.toNat).length = 4 :=
      length_padded (by decide) (by omega)
    rw [if_pos plain, scanYear?_digits (allDigits_padded _ _)
      (padded_ne_nil _ _) (Nat.le_of_eq length) ends, value_padded,
      Int.toNat_of_nonneg plain.1]
  · rw [if_neg plain]
    by_cases negative : year < 0
    · have same : -(year.natAbs : Int) = year := by omega
      rw [if_pos negative, scanYear?_minus (allDigits_padded _ _)
        (padded_ne_nil _ _) ends, value_padded, same]
    · have same : (year.natAbs : Int) = year := by omega
      rw [if_neg negative, scanYear?_plus (allDigits_padded _ _)
        (padded_ne_nil _ _) ends, value_padded, same]

/-- Every date is found in its text, whatever follows. -/
theorem scanDate?_written (date : Date) (rest : List Char) :
    scanDate? (date.written ++ rest) = some (date, rest) := by
  apply Date.scan?_written findsFields
  intro rest
  exact scanYear?_yearDigits date.year Bool.false_ne_true

/-- The lenient reader finds no time of day at a letter. -/
theorem readInstant?_written (instant : Instant) :
    readInstant? instant.written = none := by
  -- Behind the date stands neither a blank nor a digit.
  unfold readInstant?
  rw [Instant.written_eq, scanDate?_written]
  rfl

end Lenient

namespace Internet

theorem findsFields : FindsFields (scanExactly? 2) :=
  scanExactly?_padded (Nat.zero_lt_succ 1)

theorem scanDate?_written {date : Date} (plain : date.HasPlainYear)
    (rest : List Char) :
    scanDate? (date.written ++ rest) = some (date, rest) := by
  have fits : date.year.toNat < 10 ^ 4 := by
    have upper := plain.2
    omega
  apply Date.scan?_written findsFields
  intro rest
  unfold scanYear?
  rw [Date.yearDigits_of_plain plain, scanExactly?_padded (by decide) fits]
  simp only [Option.map_some, Int.toNat_of_nonneg plain.1]

/-- A sign is no digit of a year. -/
theorem scanDate?_signed {date : Date} (signed : ¬date.HasPlainYear)
    (rest : List Char) : scanDate? (date.written ++ rest) = none := by
  unfold scanDate? Date.scan? Date.written
  rw [Date.yearDigits_of_signed signed]
  by_cases negative : date.year < 0
  · rw [if_pos negative]
    rfl
  · rw [if_neg negative]
    rfl

end Internet

/-- Without an offset a clock shows the time of UTC. -/
theorem Instant.ofLocal?_zero (instant : Instant) :
    ofLocal? instant.date instant.time 0 = some instant := by
  have within := instant.time.second_lt
  have noOffset : (instant.time.second : Int) - 60 * 0 =
      instant.time.second := by omega
  have notBefore : ¬(instant.time.second : Int) < 0 := by omega
  have notAfter : ¬86400 ≤ (instant.time.second : Int) := by omega
  unfold ofLocal?
  simp only [noOffset, if_neg notBefore, if_neg notAfter,
    Option.bind_eq_bind, Option.bind_some, Int.toNat_natCast,
    TimeOfDay.ofParts?_self]
  rfl

theorem Internet.readInstant?_written {instant : Instant}
    (plain : instant.date.HasPlainYear) :
    readInstant? instant.written = some instant := by
  have separator (rest : List Char) :
      skipSeparator? ('T' :: rest) = some rest := rfl
  have offset : scanOffset? ('+' :: ['0', '0', ':', '0', '0']) =
      some (0, []) := by decide
  unfold readInstant?
  rw [Instant.written_eq, scanDate?_written plain]
  simp only [Option.bind_eq_bind, Option.bind_some, separator,
    TimeOfDay.scan?_written findsFields (TimeOfDay.scanFraction?_written
      instant.time.fraction_lt _), offset]
  exact Instant.ofLocal?_zero instant

theorem Internet.readInstant?_signed {instant : Instant}
    (signed : ¬instant.date.HasPlainYear) :
    readInstant? instant.written = none := by
  unfold readInstant?
  rw [Instant.written_eq, scanDate?_signed signed]
  rfl

namespace Instant

/-- An instant is read back from its text if its year has no sign. -/
theorem read?_text (instant : Instant) :
    read? instant.text =
      if instant.date.HasPlainYear then some instant else none := by
  unfold read? text
  rw [String.toList_ofList]
  by_cases plain : instant.date.HasPlainYear
  · rw [if_pos plain, Internet.readInstant?_written plain]
  · rw [if_neg plain, Internet.readInstant?_signed plain]
    exact Lenient.readInstant?_written instant

end Instant

/-- A date is read back from its text in every year. -/
theorem Date.read?_text (date : Date) : read? date.text = some date := by
  have found := Lenient.scanDate?_written date []
  rw [List.append_nil] at found
  unfold read? text
  rw [String.toList_ofList, found]
  rfl

end TypedSql
