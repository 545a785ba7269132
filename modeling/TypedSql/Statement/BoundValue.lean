import TypedSql.Error

/-!
# Bound values

The writer of inserts carries values to their placeholders in classes of its
own, each of which has a null.  It has more classes than the storage engine, so
a bound value may have no stored form.
-/

namespace TypedSql

inductive BoundValue where
  | boolean (value : Option Bool)
  | int8 (value : Option Int8)
  | int16 (value : Option Int16)
  | int32 (value : Option Int32)
  | int64 (value : Option Int64)
  | uint8 (value : Option UInt8)
  | uint16 (value : Option UInt16)
  | uint32 (value : Option UInt32)
  | uint64 (value : Option UInt64)
  /-- A number of single precision, by its bits. -/
  | single (bits : Option UInt32)
  | double (value : Option Binary64)
  | string (value : Option String)
  | character (value : Option Char)
  | bytes (value : Option ByteArray)

namespace BoundValue

/-- What carries a datum.  A null is carried as an integer that is absent. -/
def ofDatum : Datum → BoundValue
  | .null => .int64 none
  | .integer value => .int64 (some value)
  | .real value => .double (some value)
  | .text value => .string (some value)
  | .blob value => .bytes (some value)

/-- The datum that is bound in the end, whichever class a null was carried in.
Classes that the storage engine lacks are refused. -/
def toDatum : BoundValue → Except Error Datum
  | .int64 (some value) => .ok (.integer value)
  | .double (some value) => .ok (.real value)
  | .string (some value) => .ok (.text value)
  | .bytes (some value) => .ok (.blob value)
  | .int64 none | .double none | .string none | .bytes none => .ok .null
  | _ =>
      .error (.storage
        ("unsupported values require explicit conversion before " ++
          "building the query"))

/-- All data, or the error of the first value that is refused. -/
def toData (values : List BoundValue) : Except Error (List Datum) :=
  values.mapM toDatum

theorem toDatum_ofDatum (datum : Datum) :
    (ofDatum datum).toDatum = .ok datum := by
  cases datum <;> rfl

/-- Nothing is lost on the way to the placeholders. -/
@[simp] theorem toData_ofDatum (data : List Datum) :
    toData (data.map ofDatum) = .ok data := by
  induction data with
  | nil => rfl
  | cons datum data induction =>
      unfold toData at induction ⊢
      rw [List.map_cons, List.mapM_cons, toDatum_ofDatum, induction]
      rfl

end BoundValue

end TypedSql
