import TypedSql.Schema
import TypedSql.Schema.Identifier

/-!
# Table definitions

A table definition is what the storage engine is told of a schema: the columns
in order, each with its affinity, and after them the foreign keys.  Zero or
several primary keys are left for the engine to judge.
-/

namespace TypedSql

structure ColumnDefinition where
  name : String
  affinity : Affinity
  isKey : Bool
deriving DecidableEq, Repr

structure TableDefinition where
  name : String
  columns : List ColumnDefinition
  foreignKeys : List ForeignKey
deriving DecidableEq, Repr

open Identifier (quote)

def ColumnDefinition.text (column : ColumnDefinition) : String :=
  quote column.name ++ " " ++ column.affinity.keyword ++
    (if column.isKey then " PRIMARY KEY" else "")

def ForeignKey.text (key : ForeignKey) : String :=
  "FOREIGN KEY (" ++ quote key.field ++ ") REFERENCES " ++ quote key.table ++
    " (" ++ quote key.column ++ ")"

/-- The statement that creates a table. -/
def TableDefinition.text (table : TableDefinition) : String :=
  let parts :=
    table.columns.map ColumnDefinition.text ++
      table.foreignKeys.map ForeignKey.text
  "CREATE TABLE " ++ quote table.name ++ " ( " ++
    ", ".intercalate parts ++ " )"

def Field.definition (field : Field) : ColumnDefinition :=
  { name := field.name
    affinity := field.kind.affinity
    isKey := field.isKey }

namespace Schema

def definition (schema : Schema) : TableDefinition :=
  { name := schema.tableName
    columns := schema.fields.map Field.definition
    foreignKeys := schema.foreignKeys }

/-- The statement that creates the table of a schema. -/
def createStatement (schema : Schema) : String :=
  schema.definition.text

end Schema

end TypedSql
