import TypedSql.Calendar.Written
import TypedSql.Json.Printing
import TypedSql.Value.Datum
import TypedSql.Value.Kind

/-!
# Values

A value is an operand of a clause, a field of a record or an element of a row.
It keeps its full type until the parameters of a statement are bound; then
`Value.toDatum` turns it into a datum.
-/

namespace TypedSql

inductive Value where
  | null
  | integer (value : Int64)
  | real (value : Binary64)
  | text (value : String)
  | boolean (value : Bool)
  | bytes (value : ByteArray)
  | timestamp (value : Instant)
  | date (value : Date)
  | json (value : Json.Document)
deriving Inhabited

namespace Value

/-- The kind that a value belongs to.  A null belongs to none. -/
def kind? : Value → Option Kind
  | .null => none
  | .integer _ => some .integer
  | .real _ => some .real
  | .text _ => some .text
  | .boolean _ => some .boolean
  | .bytes _ => some .bytes
  | .timestamp _ => some .timestamp
  | .date _ => some .date
  | .json _ => some .json

def isNull : Value → Bool
  | .null => true
  | _ => false

def typeName (value : Value) : String :=
  Kind.nameOrNull value.kind?

/-- Whether a value is null or the zero of its kind.  A primary key with such a
value is left to the storage engine.  Every instant and every date counts as
set, and a double counts as zero when it is negligible beside one. -/
def isUnset : Value → Bool
  | .null => true
  | .integer value => value = 0
  | .real value => value.isNegligible
  | .text value => value.isEmpty
  | .boolean value => !value
  | .bytes value => value.isEmpty
  | .timestamp _ => false
  | .date _ => false
  | .json value => value.isNull

/-- The value as shown to a reader. -/
def display : Value → String
  | .null => "NULL"
  | .integer value => Datum.displayInteger value
  | .real value => Datum.displayReal value
  | .text value => value
  | .boolean true => "true"
  | .boolean false => "false"
  | .bytes value => Datum.displayBytes value
  | .timestamp value => value.text
  | .date value => value.text
  | .json value => value.text

/-- The stored form of a value.  Truth values are stored as zero and one, and
what has no storage class of its own as text. -/
def toDatum : Value → Datum
  | .null => .null
  | .integer value => .integer value
  | .real value => .real value
  | .text value => .text value
  | .boolean value => .integer (if value then 1 else 0)
  | .bytes value => .blob value
  | .timestamp value => .text value.text
  | .date value => .text value.text
  | .json value => .text value.text

/-- A datum as a value of its own kind. -/
def ofDatum : Datum → Value
  | .null => .null
  | .integer value => .integer value
  | .real value => .real value
  | .text value => .text value
  | .blob value => .bytes value

end Value

end TypedSql
