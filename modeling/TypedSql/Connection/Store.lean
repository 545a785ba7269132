import TypedSql.Connection
import TypedSql.Connection.Limits
import TypedSql.Schema.DefinitionReading

/-!
# A private store

A store in memory knows which tables exist and whether a transaction is open.
It judges table definitions as the storage engine does: names are compared
without regard to the case of ASCII letters.
-/

namespace TypedSql

/-- A table and, in the order of its rows, the integers in its only column. -/
structure StoredTable where
  definition : TableDefinition
  integers : List Int

structure Store where
  tables : List StoredTable
  inTransaction : Bool

namespace Store

def empty : Store :=
  { tables := [], inTransaction := false }

/-- Why a store refuses a statement. -/
inductive Fault where
  | unsupported
  | incomplete
  | nestedTransaction
  | tableExists (table : String)
  | malformedTable (table : String)
  | noTable (table : String)
  | noColumn (column : String)
  /-- The rows of a table have this many columns, but one value was given. -/
  | valueCount (table : String) (columns : Nat)
  /-- A foreign key does not refer to a primary key. -/
  | keyMismatch (child parent : String)
  | notUnique (table column : String)
  /-- A foreign key has a value that the table referred to does not have. -/
  | unmatchedKey
deriving DecidableEq, Repr

def Fault.message : Fault → String
  | .unsupported => "unsupported statement"
  | .incomplete => "incomplete input"
  | .nestedTransaction => "cannot start a transaction within a transaction"
  | .tableExists table => "table " ++ table ++ " already exists"
  | .malformedTable table => "table " ++ table ++ " is malformed"
  | .noTable table => "no such table: " ++ table
  | .noColumn column => "no such column: " ++ column
  | .valueCount table columns =>
      "table " ++ table ++ " has " ++ toString columns ++
        " columns but 1 values were supplied"
  | .keyMismatch child parent =>
      "foreign key mismatch - " ++ Identifier.quote child ++
        " referencing " ++ Identifier.quote parent
  | .notUnique table column =>
      "UNIQUE constraint failed: " ++ table ++ "." ++ column
  | .unmatchedKey => "FOREIGN KEY constraint failed"

/-- A name with its ASCII letters in lower case. -/
def foldName (name : String) : String :=
  name.map Char.toLower

/-- Whether names denote the same table or column. -/
def sameName (left right : String) : Bool :=
  foldName left = foldName right

/-- Names that belong to the engine itself. -/
def isReserved (name : String) : Bool :=
  "sqlite_".toList.isPrefixOf (foldName name).toList

/-- A table has a column, but not too many, at most one primary key and no two
columns of one name, and refers to other tables by its own columns only. -/
def isSound (table : TableDefinition) : Bool :=
  let names := table.columns.map fun column => foldName column.name
  !isReserved table.name && !names.isEmpty &&
    names.length ≤ Limits.columns &&
    (table.columns.filter (·.isKey)).length ≤ 1 && names.Nodup &&
    table.foreignKeys.all fun key => names.contains (foldName key.field)

/-- The table that a name denotes. -/
def find? (store : Store) (name : String) : Option StoredTable :=
  store.tables.find? fun table => sameName table.definition.name name

/-- Whether the catalog lists a table under exactly this name. -/
def listsTable (store : Store) (name : String) : Bool :=
  store.tables.any (·.definition.name = name)

/-- Adds a table to the catalog. -/
def createTable (store : Store) (table : TableDefinition) :
    Except Fault Store :=
  if (store.find? table.name).isSome then .error (.tableExists table.name)
  else if isSound table then
    let added : StoredTable := { definition := table, integers := [] }
    .ok { store with tables := store.tables ++ [added] }
  else .error (.malformedTable table.name)

/-- Opens a transaction; there is only one at a time. -/
def beginTransaction (store : Store) : Except Fault Store :=
  if store.inTransaction then .error .nestedTransaction
  else .ok { store with inTransaction := true }

/-- A statement ends at its first null character. -/
def effectiveText (sql : String) : String :=
  String.ofList (sql.toList.takeWhile (· ≠ '\x00'))

/-- Executes the statements that change the catalog or open a transaction. -/
def execute (store : Store) (sql : String) : Except Fault Store :=
  if sql = "BEGIN" then store.beginTransaction
  else
    match TableDefinition.read? (effectiveText sql) with
    | some table => store.createTable table
    | none => .error .unsupported

def connection : Connection Store where
  query _ _ := throw Fault.unsupported.message
  exec sql _ := do
    let changed ← ((← get).execute sql).mapError Fault.message
    set changed
    return 0
  commit := modify fun store => { store with inTransaction := false }
  tableExists name := return (← get).listsTable name

end Store

end TypedSql
