import TypedSql.Proofs.Value.Survival

/-!
# Elements that are stored exactly

The elements of every host type but timestamps and documents are decoded from
their stored form: doubles bit for bit, and dates in every year.  So no two of
them have one stored form, and what has been decoded can be stored and decoded
once more.
-/

namespace TypedSql

theorem Value.isNull_ofDatum_toDatum (value : Value) :
    (ofDatum value.toDatum).isNull = value.isNull := by
  cases value <;> rfl

namespace Scalar

variable {scalar : Scalar}

theorem ofValue_stored (noTimestamp : scalar ≠ .timestamp)
    (noDocument : scalar ≠ .json) (element : scalar.Carrier) :
    scalar.ofValue (.ofDatum (scalar.toValue element).toDatum) =
      .ok element := by
  cases scalar with
  | int64 | double | string | bytes => rfl
  | int32 => exact int32OfValue_toInt64 element
  | boolean => cases element <;> rfl
  | date =>
      simp only [toValue, Value.toDatum, Value.ofDatum, ofValue, dateOfValue,
        Date.read?_text]
  | timestamp => exact (noTimestamp rfl).elim
  | json => exact (noDocument rfl).elim

/-- To store and to decode what has been decoded changes nothing. -/
theorem reread_eq (noTimestamp : scalar ≠ .timestamp)
    (noDocument : scalar ≠ .json) (stored : Datum) :
    scalar.reread stored = scalar.ofValue (.ofDatum stored) := by
  unfold reread
  cases decoded : scalar.ofValue (.ofDatum stored) with
  | error cause => rfl
  | ok element => exact ofValue_stored noTimestamp noDocument element

end Scalar

namespace HostType

/-- The type of the elements that are present. -/
def scalar : HostType → Scalar
  | .required scalar => scalar
  | .optional scalar => scalar

variable {type : HostType}

theorem survives (noTimestamp : type.scalar ≠ .timestamp)
    (noDocument : type.scalar ≠ .json) (element : type.Carrier) :
    type.Survives element := by
  cases type with
  | required scalar =>
      exact Scalar.ofValue_stored noTimestamp noDocument element
  | optional scalar =>
      cases element with
      | none => rfl
      | some element =>
          have stored :
              scalar.ofValue (.ofDatum (scalar.toValue element).toDatum) =
                .ok element :=
            Scalar.ofValue_stored noTimestamp noDocument element
          have present :
              (Value.ofDatum (scalar.toValue element).toDatum).isNull =
                false := by
            rw [Value.isNull_ofDatum_toDatum]
            exact scalar.isNull_toValue element
          unfold Survives
          rw [toValue, ofValue_of_present present, stored]
          rfl

/-- Elements that survive are told apart by their stored forms. -/
theorem eq_of_survives {left right : type.Carrier}
    (leftSurvives : type.Survives left) (rightSurvives : type.Survives right)
    (sameDatum : (type.toValue left).toDatum = (type.toValue right).toDatum) :
    left = right := by
  unfold Survives at leftSurvives rightSurvives
  rw [sameDatum, rightSurvives] at leftSurvives
  exact (Except.ok.inj leftSurvives).symm

/-- Every element of a host type of neither timestamps nor documents is what its
stored form is decoded to, and has a stored form of its own.  Whatever a datum
is decoded to, it is decoded to the same again from what is stored for that. -/
theorem stored_exactly (noTimestamp : type.scalar ≠ .timestamp)
    (noDocument : type.scalar ≠ .json) :
    (∀ element : type.Carrier,
      type.ofValue (.ofDatum (type.toValue element).toDatum) = .ok element) ∧
    (∀ left right : type.Carrier,
      (type.toValue left).toDatum = (type.toValue right).toDatum →
        left = right) ∧
    ∀ stored : Datum,
      type.scalar.reread stored =
        type.scalar.ofValue (.ofDatum stored) := by
  have survive := survives noTimestamp noDocument
  refine ⟨survive, ?_, Scalar.reread_eq noTimestamp noDocument⟩
  intro left right sameDatum
  exact eq_of_survives (survive left) (survive right) sameDatum

/-- A day before the year zero, and the same day in a text with blanks. -/
theorem stored_exactly_signedYear :
    let type : HostType := .optional .date
    let ides : Date := ⟨-44, 3, 15, by decide⟩
    type.scalar ≠ .timestamp ∧ type.scalar ≠ .json ∧
      (type.toValue (some ides)).toDatum = .text "-0044-03-15" ∧
      type.ofValue (.ofDatum (.text "-0044-03-15")) = .ok (some ides) ∧
      ((type.toValue (some ides)).toDatum = (type.toValue none).toDatum →
        some ides = none) ∧
      Scalar.date.ofValue (.ofDatum (.text " -44-3- 15")) = .ok ides ∧
      Scalar.date.reread (.text " -44-3- 15") = .ok ides := by
  intro type ides
  have noTimestamp : type.scalar ≠ .timestamp := nofun
  have noDocument : type.scalar ≠ .json := nofun
  obtain ⟨survive, separate, again⟩ :=
    stored_exactly noTimestamp noDocument
  have written : (type.toValue (some ides)).toDatum = .text "-0044-03-15" := by
    decide
  have found : Date.read? " -44-3- 15" = some ides := by decide +kernel
  have decoded :
      Scalar.date.ofValue (.ofDatum (.text " -44-3- 15")) = .ok ides := by
    simp only [Value.ofDatum, Scalar.ofValue, Scalar.dateOfValue, found]
  refine ⟨noTimestamp, noDocument, written, ?_, ?_, decoded, ?_⟩
  · rw [← written]
    exact survive (some ides)
  · exact separate (some ides) none
  · exact (again _).trans decoded

end HostType

end TypedSql
