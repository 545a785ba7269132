import TypedSql.Decimal.Layout

/-!
# Stored values

A datum is a value in one of the storage classes of the engine.
-/

namespace TypedSql

-- Byte arrays are compared as in the core library, whatever else is imported.
attribute [local instance (high)] ByteArray.instDecidableEq

inductive Datum where
  | null
  | integer (value : Int64)
  | real (value : Binary64)
  | text (value : String)
  | blob (value : ByteArray)
deriving DecidableEq

namespace Datum

def isNull : Datum → Bool
  | .null => true
  | _ => false

/-- Doubles are displayed without an exponent, and whole ones without a point.
Of two shortest decimals equally near, the greater one is taken. -/
def realLayout : Decimal.Layout :=
  { positional := none
    wholeMark := []
    singleMark := []
    exponentWidth := 1 }

def displayReal (value : Binary64) : String :=
  if value.isNaN then "NaN"
  else
    let size :=
      if value.isInfinite then ['i', 'n', 'f']
      else if value.isZero then ['0']
      else realLayout.write (value.shortestDecimal .up)
    String.ofList (if value.isNegative then '-' :: size else size)

def displayInteger (value : Int64) : String :=
  toString value.toInt

def displayBytes (value : ByteArray) : String :=
  "<" ++ toString value.size ++ " bytes>"

/-- The datum as shown to a reader; of a blob only its size. -/
def display : Datum → String
  | .null => "NULL"
  | .integer value => displayInteger value
  | .real value => displayReal value
  | .text value => value
  | .blob value => displayBytes value

end Datum

end TypedSql
