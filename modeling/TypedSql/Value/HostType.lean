import TypedSql.Value

/-!
# Host types

The fields of a record have host types: the types in which a program keeps
them.  A host type belongs to one kind and says whether the field may be
absent.  `HostType.toValue` takes its elements to values.
-/

namespace TypedSql

/-- Types of a field that is never absent. -/
inductive Scalar where
  | int64
  | int32
  | double
  | boolean
  | string
  | bytes
  | timestamp
  | date
  | json
deriving DecidableEq, Repr

namespace Scalar

/-- The elements of a scalar type. -/
abbrev Carrier : Scalar → Type
  | .int64 => Int64
  | .int32 => Int32
  | .double => Binary64
  | .boolean => Bool
  | .string => String
  | .bytes => ByteArray
  | .timestamp => Instant
  | .date => Date
  | .json => Json.Document

def kind : Scalar → Kind
  | .int64 => .integer
  | .int32 => .integer
  | .double => .real
  | .boolean => .boolean
  | .string => .text
  | .bytes => .bytes
  | .timestamp => .timestamp
  | .date => .date
  | .json => .json

def toValue : (scalar : Scalar) → scalar.Carrier → Value
  | .int64, element => .integer element
  | .int32, element => .integer element.toInt64
  | .double, element => .real element
  | .boolean, element => .boolean element
  | .string, element => .text element
  | .bytes, element => .bytes element
  | .timestamp, element => .timestamp element
  | .date, element => .date element
  | .json, element => .json element

theorem kind?_toValue (scalar : Scalar) (element : scalar.Carrier) :
    (scalar.toValue element).kind? = some scalar.kind := by
  cases scalar <;> rfl

theorem isNull_toValue (scalar : Scalar) (element : scalar.Carrier) :
    (scalar.toValue element).isNull = false := by
  cases scalar <;> rfl

/-- Whether two elements compare equal.  Doubles compare as numbers, also
inside documents. -/
def same : (scalar : Scalar) → scalar.Carrier → scalar.Carrier → Bool
  | .int64, left, right => left == right
  | .int32, left, right => left == right
  | .double, left, right => left.numericEq right
  | .boolean, left, right => left == right
  | .string, left, right => left == right
  | .bytes, left, right => left == right
  | .timestamp, left, right => left == right
  | .date, left, right => left == right
  | .json, left, right => left.same right

end Scalar

/-- The type of a field that is always present, or may be absent. -/
inductive HostType where
  | required (scalar : Scalar)
  | optional (scalar : Scalar)
deriving DecidableEq, Repr

namespace HostType

abbrev Carrier : HostType → Type
  | .required scalar => scalar.Carrier
  | .optional scalar => Option scalar.Carrier

def kind : HostType → Kind
  | .required scalar => scalar.kind
  | .optional scalar => scalar.kind

def nullable : HostType → Bool
  | .required _ => false
  | .optional _ => true

/-- An element as a value; an absent one is null. -/
def toValue : (type : HostType) → type.Carrier → Value
  | .required scalar, element => scalar.toValue element
  | .optional _, none => .null
  | .optional scalar, some element => scalar.toValue element

/-- Whether two elements compare equal. -/
def same : (type : HostType) → type.Carrier → type.Carrier → Bool
  | .required scalar, left, right => scalar.same left right
  | .optional _, none, none => true
  | .optional scalar, some left, some right => scalar.same left right
  | .optional _, _, _ => false

end HostType

end TypedSql
