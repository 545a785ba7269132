import TypedSql.Record
import TypedSql.Schema.Identifier
import TypedSql.Statement.BoundValue
import TypedSql.Statement.Rendering

/-!
# Insert statements

An insert binds values to columns of one table and returns the stored row.  A
primary key with an unset value is left out, so that the storage engine assigns
it.
-/

namespace TypedSql

/-- Whether a row may take the place of one with the same key. -/
inductive WriteMode where
  | insert
  | replace
deriving DecidableEq, Repr

def WriteMode.keyword : WriteMode → String
  | .insert => "INSERT"
  | .replace => "REPLACE"

structure Insert where
  schema : Schema
  /-- Columns and the values bound to them, in order. -/
  bindings : List (String × Value)
  mode : WriteMode
  error : Option Error

namespace Insert

open Identifier (quote)

def empty (schema : Schema) : Insert :=
  { schema := schema, bindings := [], mode := .insert, error := none }

/-- Whether the storage engine is left to assign a field. -/
def isLeftOut (field : Field) (value : Value) : Bool :=
  field.isKey && value.isUnset

/-- Binds values to the fields in order, apart from the keys left out. -/
def ofValues (schema : Schema) (values : List Value) : Insert :=
  let pairs :=
    (schema.fields.zip values).filter fun (field, value) =>
      !isLeftOut field value
  { empty schema with
    bindings := pairs.map fun (field, value) => (field.name, value) }

def ofRecord (entity : Entity) (record : entity.Record) : Insert :=
  ofValues entity.schema record.values

/-- The name of a field that takes a value: the field is declared, and the value
passes the check of a comparison. -/
def checkField (schema : Schema) (field : String) (value : Value) :
    Except Error String := do
  let column ← schema.column field
  let _ ← column.compare .eq value
  return column.name

/-- Binds a value to a field, or keeps the first error. -/
def set (insert : Insert) (field : String) (value : Value) : Insert :=
  match checkField insert.schema field value with
  | .ok name =>
      { insert with bindings := insert.bindings ++ [(name, value)] }
  | .error error => { insert with error := insert.error.or (some error) }

def withMode (insert : Insert) (mode : WriteMode) : Insert :=
  { insert with mode := mode }

/-- Lets the row take the place of one with the same key. -/
def replace (insert : Insert) : Insert :=
  insert.withMode .replace

/-- The insert as a query.  Without bindings all columns take their default
values. -/
def build (insert : Insert) : Except Error Query :=
  match insert.error with
  | some error => .error error
  | none =>
      let table := insert.schema.tableName
      if insert.bindings.isEmpty then
        .ok
          { sql :=
              insert.mode.keyword ++ " INTO \"" ++ table ++
                "\" DEFAULT VALUES RETURNING *"
            parameters := [] }
      else do
        let names := insert.bindings.map fun (name, _) => quote name
        let marks := insert.bindings.map fun _ => "?"
        let parameters ← BoundValue.toData
          (insert.bindings.map fun binding => .ofDatum binding.2.toDatum)
        return {
          sql :=
            insert.mode.keyword ++ " INTO " ++ quote table ++ " (" ++
              ", ".intercalate names ++ ") VALUES (" ++
              ", ".intercalate marks ++ ") RETURNING *"
          parameters := parameters }

end Insert

end TypedSql
