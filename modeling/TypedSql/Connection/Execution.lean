import TypedSql.Connection
import TypedSql.Schema.Definition
import TypedSql.Statement.Delete
import TypedSql.Statement.Insert
import TypedSql.Statement.Select
import TypedSql.Statement.Update

/-!
# Execution

Statements are executed over a connection.  Every statement that has been
executed is committed, and a batch of records once at its end; the first
failure stops whatever is under way.
-/

namespace TypedSql

/-- The data of a row as values. -/
def Row.values (row : Row) : List Value :=
  row.data.map Value.ofDatum

namespace Connection

variable {σ : Type}

/-- An action of the engine, its failure being one of storage. -/
def onStorage {α : Type} (action : EngineM σ String α) : EngineM σ Error α :=
  action.adapt Error.storage

/-- Whether the table of a schema exists. -/
def hasTable (connection : Connection σ) (schema : Schema) :
    EngineM σ Error Bool :=
  onStorage (connection.tableExists schema.tableName)

/-- Creates the table of a schema. -/
def createTable (connection : Connection σ) (schema : Schema) :
    EngineM σ Error Unit := do
  let _ ← onStorage (connection.exec schema.createStatement [])

/-- Creates the table of a schema unless it exists. -/
def ensureTable (connection : Connection σ) (schema : Schema) :
    EngineM σ Error Unit := do
  unless ← connection.hasTable schema do
    connection.createTable schema
    onStorage connection.commit

/-- Executes a query and commits. -/
def execute (connection : Connection σ) (query : Query) :
    EngineM σ Error (List Row) := do
  let rows ← onStorage (connection.query query.sql query.parameters)
  onStorage connection.commit
  return rows

/-- Executes a statement, if it can be rendered, and turns every row into its
shape. -/
def fetchAll (connection : Connection σ) (shape : RowShape)
    (statement : Statement) : EngineM σ Error (List shape.Item) := do
  let query ← statement.render
  let rows ← connection.execute query
  shape.ofRows (rows.map Row.values)

/-- Executes a statement, if it can be rendered, and turns the first row into
its shape, if there is a row. -/
def fetchFirst (connection : Connection σ) (shape : RowShape)
    (statement : Statement) : EngineM σ Error (Option shape.Item) := do
  let query ← statement.render
  let rows ← connection.execute query
  shape.ofFirst (rows.map Row.values)

/-- Stores one record, and returns the row that is stored. -/
def storedRow (connection : Connection σ) (entity : Entity)
    (mode : WriteMode) (record : entity.Record) :
    EngineM σ Error (List Value) := do
  let query ← ((Insert.ofRecord entity record).withMode mode).build
  match ← onStorage (connection.query query.sql query.parameters) with
  | [] => throw (.rowArity entity.tableName entity.fields.length 0)
  | row :: _ => return row.values

/-- Stores one record and applies the stored row to it. -/
def writeRecord (connection : Connection σ) (entity : Entity)
    (mode : WriteMode) (record : entity.Record) :
    StateM σ (entity.Record × Except Error Unit) := do
  match ← (connection.storedRow entity mode record).run with
  | .ok row => return entity.applyRow record row
  | .error error => return (record, .error error)

/-- Stores records one after the other and commits at the end.  The first
failure leaves the record at fault and all behind it as they were. -/
def write (connection : Connection σ) (entity : Entity) (mode : WriteMode) :
    List entity.Record → StateM σ (List entity.Record × Except Error Unit)
  | [] => do
      let committed ← (onStorage connection.commit).run
      return ([], committed)
  | record :: records => do
      let (record, written) ← connection.writeRecord entity mode record
      match written with
      | .error error => return (record :: records, .error error)
      | .ok () =>
          let (records, written) ← connection.write entity mode records
          return (record :: records, written)

/-- Inserts records, and brings them up to date with the stored rows. -/
def insert (connection : Connection σ) (entity : Entity)
    (records : List entity.Record) :
    StateM σ (List entity.Record × Except Error Unit) :=
  connection.write entity .insert records

/-- Replaces whole records, and brings them up to date with the stored rows. -/
def replace (connection : Connection σ) (entity : Entity)
    (records : List entity.Record) :
    StateM σ (List entity.Record × Except Error Unit) :=
  connection.write entity .replace records

end Connection

section

variable {σ : Type}

/-- Every row of a select. -/
def Select.all (select : Select) (connection : Connection σ) :
    EngineM σ Error (List select.shape.Item) :=
  connection.fetchAll select.shape select.statement

/-- The first row of a select, if there is one. -/
def Select.first (select : Select) (connection : Connection σ) :
    EngineM σ Error (Option select.shape.Item) :=
  connection.fetchFirst select.shape select.statement

/-- Every row that an update returns. -/
def Update.all (update : Update) (connection : Connection σ) :
    EngineM σ Error (List (List Value)) :=
  connection.fetchAll .tuple update.statement

/-- The first row that an update returns, if there is one. -/
def Update.first (update : Update) (connection : Connection σ) :
    EngineM σ Error (Option (List Value)) :=
  connection.fetchFirst .tuple update.statement

/-- Every row that a delete returns. -/
def Delete.all (delete : Delete) (connection : Connection σ) :
    EngineM σ Error (List delete.shape.Item) :=
  connection.fetchAll delete.shape delete.statement

/-- The first row that a delete returns, if there is one. -/
def Delete.first (delete : Delete) (connection : Connection σ) :
    EngineM σ Error (Option delete.shape.Item) :=
  connection.fetchFirst delete.shape delete.statement

end

end TypedSql
