import TypedSql.Connection
import TypedSql.Connection.Limits
import TypedSql.Connection.RealText

/-!
# Bound parameters

What becomes of parameters when the storage engine hands them back unchanged or
as text.
-/

namespace TypedSql.Binding

inductive Fault where
  | incomplete
  | tooManyColumns
  /-- The placeholder at this byte of the statement is one too many. -/
  | tooManyPlaceholders (sql : String) (offset : Nat)
  | wrongCount (given needed : Nat)
  | notText

def Fault.message : Fault → String
  | .incomplete => "incomplete input"
  | .tooManyColumns => "too many columns in result set"
  | .tooManyPlaceholders sql offset =>
      "too many SQL variables in " ++ sql ++ " at offset " ++ toString offset
  | .wrongCount given needed =>
      "Wrong number of parameters passed to query. Got " ++ toString given ++
        ", needed " ++ toString needed
  | .notText => "invalid UTF-8 in text value"

/-- The datum as the engine keeps it.  A NaN is kept as null. -/
def kept : Datum → Datum
  | .real value => if value.isNaN then .null else .real value
  | datum => datum

/-- Name of a column that a parameter is handed back in. -/
def columnName (index : Nat) : String :=
  "c" ++ toString index

/-- The query that hands back so many parameters. -/
def echoText (placeholders : Nat) : String :=
  let columns :=
    (List.range placeholders).map fun index => "? AS " ++ columnName index
  "SELECT " ++ ", ".intercalate columns

/-- The query for so many parameters has a column at least, and is within the
limits.  The limit on placeholders is met while the query is still read. -/
def checkEcho (placeholders : Nat) : Except Fault Unit :=
  if placeholders = 0 then .error .incomplete
  else if Limits.placeholders < placeholders then
    .error
      (.tooManyPlaceholders (echoText placeholders)
        ((echoText Limits.placeholders).utf8ByteSize + ", ".utf8ByteSize))
  else if Limits.columns < placeholders then .error .tooManyColumns
  else .ok ()

/-- Every placeholder takes a parameter.  Binding stops at the first parameter
beyond the placeholders. -/
def checkCount (placeholders given : Nat) : Except Fault Unit :=
  if given = placeholders then .ok ()
  else .error (.wrongCount (min given (placeholders + 1)) placeholders)

/-- The row of all parameters, in columns named `c0`, `c1` and so on. -/
def echo (placeholders : Nat) (parameters : List Datum) :
    Except Fault (List Row) := do
  checkEcho placeholders
  checkCount placeholders parameters.length
  let fields := parameters.zipIdx.map fun (datum, index) =>
    (columnName index, kept datum)
  return [{ fields := fields }]

/-- A datum converted to text by the engine, and read back.  The bytes of a
blob have to be text. -/
def asText : Datum → Except Fault Datum
  | .null => .ok .null
  | .integer value => .ok (.text (toString value.toInt))
  | .real value =>
      .ok (if value.isNaN then .null else .text (RealText.write value))
  | .text value => .ok (.text value)
  | .blob value =>
      match String.fromUTF8? value with
      | some text => .ok (.text text)
      | none => .error .notText

/-- The row of a parameter as text, in a column named `t`. -/
def textRow (parameter : Datum) : Except Fault (List Row) := do
  let text ← asText parameter
  return [{ fields := [("t", text)] }]

end TypedSql.Binding
