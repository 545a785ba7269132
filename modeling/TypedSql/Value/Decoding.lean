import TypedSql.Binary64.Nearest
import TypedSql.Calendar.Reading
import TypedSql.Json.Reading
import TypedSql.Value.HostType

/-!
# Decoding values

A value that comes back from the storage engine has one of the engine's own
types.  `HostType.ofValue` takes it to an element of a host type, where
integers serve as truth values and as doubles, and text as bytes, instants,
dates and documents.
-/

namespace TypedSql

/-- Why a value is not an element of a host type. -/
inductive DecodeError where
  | mismatch (expected : Kind) (found : Option Kind)
  | beyondInt32 (value : Int64)
  | notBoolean (value : Int64)
  | unreadableTimestamp (text : String)
  | unreadableDate (text : String)
  | unreadableJson (fault : Json.LocatedFault)

def DecodeError.message : DecodeError → String
  | .mismatch .json found =>
      "expected json compatible value, found " ++ Kind.nameOrNull found
  | .mismatch expected found =>
      "expected " ++ expected.name ++ ", found " ++ Kind.nameOrNull found
  | .beyondInt32 value =>
      "integer " ++ toString value.toInt ++ " out of range for i32"
  | .notBoolean value =>
      "integer " ++ toString value.toInt ++ " is not a boolean"
  | .unreadableTimestamp text =>
      "unsupported timestamp: " ++ text ++
        "; expected RFC3339 or \"%Y-%m-%d %H:%M:%S%.f\" format"
  | .unreadableDate text =>
      "unsupported date: " ++ text ++ "; expected \"%Y-%m-%d\" format"
  | .unreadableJson fault => fault.message

namespace Scalar

def int64OfValue : Value → Except DecodeError Int64
  | .integer value => .ok value
  | value => .error (.mismatch .integer value.kind?)

def int32OfValue (value : Value) : Except DecodeError Int32 := do
  let value ← int64OfValue value
  if -0x80000000 ≤ value.toInt ∧ value.toInt < 0x80000000 then
    return value.toInt32
  else
    throw (.beyondInt32 value)

/-- A column of reals hands back whole numbers as integers. -/
def doubleOfValue : Value → Except DecodeError Binary64
  | .real value => .ok value
  | .integer value => .ok (Binary64.ofInt value.toInt)
  | value => .error (.mismatch .real value.kind?)

def booleanOfValue : Value → Except DecodeError Bool
  | .boolean value => .ok value
  | .integer value =>
      if value = 0 then .ok false
      else if value = 1 then .ok true
      else .error (.notBoolean value)
  | value => .error (.mismatch .boolean value.kind?)

def stringOfValue : Value → Except DecodeError String
  | .text value => .ok value
  | value => .error (.mismatch .text value.kind?)

def bytesOfValue : Value → Except DecodeError ByteArray
  | .bytes value => .ok value
  | .text value => .ok value.toUTF8
  | value => .error (.mismatch .bytes value.kind?)

def timestampOfValue : Value → Except DecodeError Instant
  | .timestamp value => .ok value
  | .text text =>
      match Instant.read? text with
      | some found => .ok found
      | none => .error (.unreadableTimestamp text)
  | value => .error (.mismatch .timestamp value.kind?)

def dateOfValue : Value → Except DecodeError Date
  | .date value => .ok value
  | .text text =>
      match Date.read? text with
      | some found => .ok found
      | none => .error (.unreadableDate text)
  | value => .error (.mismatch .date value.kind?)

def jsonOfValue : Value → Except DecodeError Json.Document
  | .json value => .ok value
  | .text text => (Json.Document.ofText text).mapError .unreadableJson
  | .bytes value => (Json.Document.ofBytes value).mapError .unreadableJson
  | value => .error (.mismatch .json value.kind?)

def ofValue : (scalar : Scalar) → Value → Except DecodeError scalar.Carrier
  | .int64, value => int64OfValue value
  | .int32, value => int32OfValue value
  | .double, value => doubleOfValue value
  | .boolean, value => booleanOfValue value
  | .string, value => stringOfValue value
  | .bytes, value => bytesOfValue value
  | .timestamp, value => timestampOfValue value
  | .date, value => dateOfValue value
  | .json, value => jsonOfValue value

theorem int32OfValue_toInt64 (element : Int32) :
    int32OfValue (.integer element.toInt64) = .ok element := by
  have lower := element.le_toInt
  have upper := element.toInt_lt
  have within : -0x80000000 ≤ element.toInt64.toInt ∧
      element.toInt64.toInt < 0x80000000 := by
    rw [Int32.toInt_toInt64]
    omega
  change (if _ then Except.ok element.toInt64.toInt32 else _) = _
  rw [if_pos within, Int32.toInt32_toInt64]

theorem ofValue_toValue (scalar : Scalar) (element : scalar.Carrier) :
    scalar.ofValue (scalar.toValue element) = .ok element := by
  cases scalar with
  | int32 => exact int32OfValue_toInt64 element
  | int64 | double | boolean | string | bytes | timestamp | date | json => rfl

end Scalar

/-- The element of a host type that a value stands for.  A null stands for the
absent one. -/
def HostType.ofValue :
    (type : HostType) → Value → Except DecodeError type.Carrier
  | .required scalar, value => scalar.ofValue value
  | .optional scalar, value =>
      if value.isNull then .ok none else (scalar.ofValue value).map some

namespace HostType

theorem ofValue_of_present {scalar : Scalar} {value : Value}
    (present : value.isNull = false) :
    (optional scalar).ofValue value = (scalar.ofValue value).map some := by
  rw [ofValue, present]
  rfl

/-- An element is what its own value stands for. -/
theorem ofValue_toValue (type : HostType) (element : type.Carrier) :
    type.ofValue (type.toValue element) = .ok element := by
  cases type with
  | required scalar => exact scalar.ofValue_toValue element
  | optional scalar =>
      cases element with
      | none => rfl
      | some element =>
          have present := scalar.isNull_toValue element
          have decoded := scalar.ofValue_toValue element
          rw [toValue, ofValue_of_present present, decoded]
          rfl

end HostType

end TypedSql
