import TypedSql.Expression.Column
import TypedSql.Text.Lowercase

/-!
# Schemas

A schema declares the fields of a table in order, and its references to other
tables.  The order of the fields is that of the columns, of inserted values and
of the rows that come back.  A table is named by its schema's identifier in
lower case.
-/

namespace TypedSql

structure Field where
  name : String
  kind : Kind
  nullable : Bool
  isKey : Bool
deriving DecidableEq, Repr

namespace Field

/-- A field of a kind, never null. -/
def ofKind (name : String) (kind : Kind) : Field :=
  { name := name, kind := kind, nullable := false, isKey := false }

/-- A field of the kind and nullability of a host type. -/
def ofType (name : String) (type : HostType) : Field :=
  { name := name
    kind := type.kind
    nullable := type.nullable
    isKey := false }

/-- The field as a column of a table. -/
def column (table : String) (field : Field) : Column :=
  { table := table
    name := field.name
    kind := field.kind
    nullable := field.nullable
    aggregation := .plain }

end Field

/-- A field that refers to a column of another table. -/
structure ForeignKey where
  field : String
  table : String
  column : String
deriving DecidableEq, Repr

structure Schema where
  name : String
  fields : List Field
  foreignKeys : List ForeignKey
deriving DecidableEq, Repr

namespace Schema

/-- The schema of a name, as yet without fields. -/
def empty (name : String) : Schema :=
  { name := name, fields := [], foreignKeys := [] }

def tableName (schema : Schema) : String :=
  lowercase schema.name

def addField (schema : Schema) (field : Field) : Schema :=
  { schema with fields := schema.fields ++ [field] }

/-- Makes the first field of a name a primary key. -/
def markKey (name : String) : List Field → List Field
  | [] => []
  | field :: fields =>
      if field.name = name then { field with isKey := true } :: fields
      else field :: markKey name fields

/-- Makes a field a primary key.  An unknown name changes nothing. -/
def primaryKey (schema : Schema) (name : String) : Schema :=
  { schema with fields := markKey name schema.fields }

/-- Makes a field refer to a column of the table of another schema. -/
def references (schema : Schema) (field schemaName column : String) : Schema :=
  let key : ForeignKey :=
    { field := field, table := lowercase schemaName, column := column }
  { schema with foreignKeys := schema.foreignKeys ++ [key] }

/-- The column of a field. -/
def column (schema : Schema) (name : String) : Except Error Column :=
  match schema.fields.find? (·.name = name) with
  | some field => .ok (field.column schema.tableName)
  | none => .error (.unknownField schema.tableName name)

def columns (schema : Schema) : List Column :=
  schema.fields.map (·.column schema.tableName)

/-- A row has one value for each field. -/
def checkArity (schema : Schema) (actual : Nat) : Except Error Unit :=
  if actual = schema.fields.length then .ok ()
  else .error (.rowArity schema.tableName schema.fields.length actual)

end Schema

end TypedSql
