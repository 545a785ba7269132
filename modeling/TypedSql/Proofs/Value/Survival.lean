import TypedSql.Proofs.Calendar.OffsetFree
import TypedSql.Value.Decoding

/-!
# Elements that survive being stored

An element of a host type survives if its stored form is decoded to it again.
A timestamp survives in the years that are written with four digits, and in no
other year is its stored form a timestamp at all.  In the form without an
offset it is decoded in every year.
-/

namespace TypedSql

/-- The element is what its stored form is decoded to. -/
def HostType.Survives (type : HostType) (element : type.Carrier) : Prop :=
  type.ofValue (.ofDatum (type.toValue element).toDatum) = .ok element

namespace Scalar

/-- A datum is read, and what is stored for its element is read once more. -/
def reread (scalar : Scalar) (stored : Datum) :
    Except DecodeError scalar.Carrier := do
  let element ← scalar.ofValue (.ofDatum stored)
  scalar.ofValue (.ofDatum (scalar.toValue element).toDatum)

theorem ofValue_stored_timestamp (instant : Instant) :
    Scalar.timestamp.ofValue
        (.ofDatum (Scalar.timestamp.toValue instant).toDatum) =
      if instant.date.HasPlainYear then .ok instant
      else .error (.unreadableTimestamp instant.text) := by
  simp only [toValue, Value.toDatum, Value.ofDatum, ofValue, timestampOfValue,
    Instant.read?_text]
  by_cases plain : instant.date.HasPlainYear
  · rw [if_pos plain, if_pos plain]
  · rw [if_neg plain, if_neg plain]

theorem timestamp_of_read? {text : String} {instant : Instant}
    (found : Instant.read? text = some instant) :
    Scalar.timestamp.ofValue (.ofDatum (.text text)) = .ok instant := by
  simp only [Value.ofDatum, ofValue, timestampOfValue, found]

theorem reread_of_decoded {stored : Datum} {instant : Instant}
    (decoded : Scalar.timestamp.ofValue (.ofDatum stored) = .ok instant) :
    Scalar.timestamp.reread stored =
      if instant.date.HasPlainYear then .ok instant
      else .error (.unreadableTimestamp instant.text) := by
  rw [reread, decoded, ← ofValue_stored_timestamp]
  exact pure_bind instant _

/-- Whatever text a timestamp was read from, it is read back from the text that
is stored for it if its year in UTC has four digits, and else not. -/
theorem reread_timestamp {stored : String} {instant : Instant}
    (decoded : Scalar.timestamp.ofValue (.ofDatum (.text stored)) =
      .ok instant) :
    (instant.date.HasPlainYear →
        Scalar.timestamp.reread (.text stored) = .ok instant) ∧
      (¬instant.date.HasPlainYear →
        Scalar.timestamp.reread (.text stored) =
          .error (.unreadableTimestamp instant.text)) := by
  rw [reread_of_decoded decoded]
  constructor
  · intro plain
    exact if_pos plain
  · intro signed
    exact if_neg signed

theorem reread_timestamp_with_offset :
    ∃ instant,
      instant.text = "2024-01-01T01:30:00.500+00:00" ∧
        Scalar.timestamp.ofValue
            (.ofDatum (.text "2023-12-31 23:30:00.5-02:00")) = .ok instant ∧
        Scalar.timestamp.reread (.text "2023-12-31 23:30:00.5-02:00") =
          .ok instant := by
  let instant : Instant :=
    { date := ⟨2024, 1, 1, by decide⟩
      time := ⟨5400, 500000000, by decide, by decide, by decide⟩ }
  have found : Instant.read? "2023-12-31 23:30:00.5-02:00" = some instant := by
    decide +kernel
  have decoded := timestamp_of_read? found
  exact ⟨instant, by decide, decoded, (reread_timestamp decoded).1 (by decide)⟩

/-- An offset may move a text of the year 9999 into the next year, and the text
that is then stored for it is no timestamp. -/
theorem reread_timestamp_tenThousand :
    ∃ instant,
      instant.text = "+10000-01-01T00:59:59+00:00" ∧
        Scalar.timestamp.ofValue
            (.ofDatum (.text "9999-12-31T23:59:59-01:00")) = .ok instant ∧
        Scalar.timestamp.reread (.text "9999-12-31T23:59:59-01:00") =
          .error (.unreadableTimestamp "+10000-01-01T00:59:59+00:00") := by
  let instant : Instant :=
    { date := ⟨10000, 1, 1, by decide⟩
      time := ⟨3599, 0, by decide, by decide, by decide⟩ }
  have found : Instant.read? "9999-12-31T23:59:59-01:00" = some instant := by
    decide +kernel
  have written : instant.text = "+10000-01-01T00:59:59+00:00" := by decide
  have signed : ¬instant.date.HasPlainYear := by decide
  have decoded := timestamp_of_read? found
  refine ⟨instant, written, decoded, ?_⟩
  rw [reread_of_decoded decoded, if_neg signed, written]

/-- The form in which a timestamp is stored and the form without an offset are
decoded to the same instant, to the nanosecond and in leap seconds too.  Where
the year has a sign, the stored form is refused. -/
theorem timestamp_decoded_from_either_form (instant : Instant) :
    (instant.date.HasPlainYear →
        Scalar.timestamp.ofValue
            (.ofDatum (Scalar.timestamp.toValue instant).toDatum) =
          .ok instant) ∧
      (¬instant.date.HasPlainYear →
        Scalar.timestamp.ofValue
            (.ofDatum (Scalar.timestamp.toValue instant).toDatum) =
          .error (.unreadableTimestamp instant.text)) ∧
      ∀ fraction, instant.time.ShowsFraction fraction →
        Scalar.timestamp.ofValue
            (.ofDatum (.text (String.ofList (instant.offsetFree fraction)))) =
          .ok instant := by
  rw [ofValue_stored_timestamp]
  refine ⟨?_, ?_, ?_⟩
  · intro plain
    exact if_pos plain
  · intro signed
    exact if_neg signed
  · intro fraction shown
    apply timestamp_of_read?
    exact Instant.read?_offsetFree shown

/-- A nanosecond into the leap second at the end of a year, in either form, and
the first second of a year that has a sign. -/
theorem timestamp_decoded_from_either_form_leapSecond :
    ∃ leap late : Instant,
      leap.text = "2016-12-31T23:59:60.000000001+00:00" ∧
        leap.date.HasPlainYear ∧
        Scalar.timestamp.ofValue (.ofDatum (.text leap.text)) = .ok leap ∧
        Scalar.timestamp.ofValue
            (.ofDatum (.text "2016-12-31 23:59:60.000000001")) = .ok leap ∧
      late.text = "+10000-01-01T00:00:00+00:00" ∧
        ¬late.date.HasPlainYear ∧
        Scalar.timestamp.ofValue (.ofDatum (.text late.text)) =
          .error (.unreadableTimestamp late.text) ∧
        Scalar.timestamp.ofValue
            (.ofDatum (.text "+10000-01-01 00:00:00")) = .ok late := by
  let leap : Instant :=
    { date := ⟨2016, 12, 31, by decide⟩
      time := ⟨86399, 1000000001, by decide, by decide, by decide⟩ }
  let late : Instant :=
    { date := ⟨10000, 1, 1, by decide⟩
      time := ⟨0, 0, by decide, by decide, by decide⟩ }
  have plain : leap.date.HasPlainYear := by decide
  have signed : ¬late.date.HasPlainYear := by decide
  obtain ⟨leapStored, -, leapFree⟩ := timestamp_decoded_from_either_form leap
  obtain ⟨-, lateStored, lateFree⟩ := timestamp_decoded_from_either_form late
  have leapText :
      String.ofList
          (leap.offsetFree ('.' :: Numeral.padded 9 leap.time.fraction)) =
        "2016-12-31 23:59:60.000000001" := by decide
  have lateText :
      String.ofList (late.offsetFree []) = "+10000-01-01 00:00:00" := by decide
  rw [← leapText, ← lateText]
  exact ⟨leap, late, by decide, plain, leapStored plain, leapFree _ .digits,
    by decide, signed, lateStored signed, lateFree _ (.nothing rfl)⟩

end Scalar

end TypedSql
