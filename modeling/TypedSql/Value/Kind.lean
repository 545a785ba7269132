/-!
# Kinds of fields

A field has one of eight kinds.  The kind fixes the affinity of its column in
the storage engine; a kind without a storage class of its own is stored
verbatim under the affinity `BLOB`.
-/

namespace TypedSql

inductive Kind where
  | integer
  | real
  | text
  | boolean
  | bytes
  | timestamp
  | date
  | json
deriving DecidableEq, Repr

inductive Affinity where
  | integer
  | text
  | real
  | blob
deriving DecidableEq, Repr

namespace Kind

def name : Kind → String
  | .integer => "integer"
  | .real => "real"
  | .text => "text"
  | .boolean => "boolean"
  | .bytes => "bytes"
  | .timestamp => "timestamp"
  | .date => "date"
  | .json => "json"

def affinity : Kind → Affinity
  | .integer => .integer
  | .boolean => .integer
  | .real => .real
  | .text => .text
  | .bytes => .blob
  | .timestamp => .blob
  | .date => .blob
  | .json => .blob

/-- Name of the type of a value, for messages; a null has no kind. -/
def nameOrNull : Option Kind → String
  | some kind => kind.name
  | none => "null"

end Kind

/-- The affinity as written in a table definition. -/
def Affinity.keyword : Affinity → String
  | .integer => "INTEGER"
  | .text => "TEXT"
  | .real => "REAL"
  | .blob => "BLOB"

end TypedSql
