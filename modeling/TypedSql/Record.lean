import TypedSql.Schema

/-!
# Entities and their records

An entity is a schema whose fields have host types.  A record has an element
for each field, in order; it is read off a row position by position.
-/

namespace TypedSql

structure EntityField where
  name : String
  type : HostType
  isKey : Bool
deriving DecidableEq, Repr

/-- A sequence of elements, one of each field's host type. -/
inductive Record : List EntityField → Type where
  | nil : Record []
  | cons {field : EntityField} {fields : List EntityField}
      (element : field.type.Carrier) (rest : Record fields) :
      Record (field :: fields)

namespace Record

/-- The elements as values, in the order of the fields. -/
def values : {fields : List EntityField} → Record fields → List Value
  | _, .nil => []
  | field :: _, .cons element rest => field.type.toValue element :: rest.values

/-- Decodes values position by position; the first that does not fit its field
is reported.  A value that is not there counts as null. -/
def decode (table : String) :
    (fields : List EntityField) → List Value → Except Error (Record fields)
  | [], _ => .ok .nil
  | field :: fields, values =>
      match field.type.ofValue (values.headD .null) with
      | .error cause => .error (.undecodable table field.name cause)
      | .ok element =>
          match decode table fields values.tail with
          | .error error => .error error
          | .ok rest => .ok (.cons element rest)

/-- Takes over the fresh elements that do not compare equal to the old ones. -/
def update :
    {fields : List EntityField} → (old fresh : Record fields) → Record fields
  | _, .nil, .nil => .nil
  | field :: _, .cons old olds, .cons fresh freshes =>
      .cons (if field.type.same old fresh then old else fresh)
        (update olds freshes)

end Record

structure Entity where
  name : String
  fields : List EntityField
  foreignKeys : List ForeignKey
deriving DecidableEq, Repr

namespace Entity

abbrev Record (entity : Entity) : Type :=
  TypedSql.Record entity.fields

def schema (entity : Entity) : Schema :=
  { name := entity.name
    fields :=
      entity.fields.map fun field =>
        { Field.ofType field.name field.type with isKey := field.isKey }
    foreignKeys := entity.foreignKeys }

def tableName (entity : Entity) : String :=
  lowercase entity.name

/-- The entity with no reference and these fields, of which the named one is the
primary key. -/
def declare (name : String) (key : Option String)
    (fields : List (String × HostType)) : Entity :=
  { name := name
    fields :=
      fields.map fun (field, type) =>
        { name := field, type := type, isKey := key = some field }
    foreignKeys := [] }

/-- The entity with a field that refers to another entity. -/
def references (entity : Entity) (field other column : String) : Entity :=
  let key : ForeignKey :=
    { field := field, table := lowercase other, column := column }
  { entity with foreignKeys := entity.foreignKeys ++ [key] }

/-- How a selection of all records is shown to a reader. -/
def displaySelector (entity : Entity) : String :=
  "Table(\"" ++ entity.tableName ++ "\")"

/-- The record that a row stands for. -/
def ofRow (entity : Entity) (row : List Value) :
    Except Error entity.Record := do
  entity.schema.checkArity row.length
  Record.decode entity.tableName entity.fields row

/-- The record after a row has been applied to it, and the outcome.  A row that
does not fit changes nothing. -/
def applyRow (entity : Entity) (record : entity.Record) (row : List Value) :
    entity.Record × Except Error Unit :=
  match entity.ofRow row with
  | .ok fresh => (record.update fresh, .ok ())
  | .error error => (record, .error error)

end Entity

end TypedSql
