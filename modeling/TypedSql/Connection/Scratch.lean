import TypedSql.Connection.Store

/-!
# The scratch table

`fill` stores small integers in the table `scratch`, and `clear` removes some of
them again by the values in its column `v`.  The table is created when it is
missing.  It may also have been created from a schema, and then has to have a
fitting column, and its key and the foreign keys are enforced.
-/

namespace TypedSql.Store

/-- A foreign key and the table that it belongs to. -/
structure Reference where
  child : String
  key : ForeignKey

/-- The foreign keys of a table, the latest first. -/
def ownReferences (table : TableDefinition) : List Reference :=
  (table.foreignKeys.map fun key =>
    { child := table.name, key := key }).reverse

/-- The foreign keys, of whatever table, that refer to a table, the latest
first. -/
def referencesTo (store : Store) (name : String) : List Reference :=
  (store.tables.reverse.flatMap fun table =>
    ownReferences table.definition).filter
      fun reference => sameName reference.key.table name

/-- Names of the table in which the engine keeps the catalog.  It has no primary
key. -/
def isCatalog (name : String) : Bool :=
  ["sqlite_master", "sqlite_schema"].contains (foldName name)

/-- Whether a name denotes the primary key of a table. -/
def isKeyOf (table : TableDefinition) (name : String) : Bool :=
  table.columns.any fun column => column.isKey && sameName column.name name

/-- Finds the table that a foreign key refers to.  It has to exist, and the key
has to refer to its primary key; this is seen only when the key is to be
enforced. -/
def parent (store : Store) (reference : Reference) :
    Except Fault StoredTable :=
  let key := reference.key
  match store.find? key.table with
  | none =>
      if isCatalog key.table then
        .error (.keyMismatch reference.child key.table)
      else
        .error (.noTable ("main." ++ key.table))
  | some table =>
      if isKeyOf table.definition key.column then .ok table
      else .error (.keyMismatch reference.child key.table)

/-- The first of the references that cannot be enforced is at fault. -/
def checkReferences (store : Store) : List Reference → Except Fault Unit
  | [] => .ok ()
  | reference :: references => do
      let _ ← store.parent reference
      store.checkReferences references

def scratchName : String := "scratch"

/-- Name of the column by which rows are removed. -/
def scratchColumn : String := "v"

/-- The scratch table as it is created here. -/
def scratch : TableDefinition :=
  { name := scratchName
    columns := [{ name := scratchColumn, affinity := .integer, isKey := false }]
    foreignKeys := [] }

/-- Puts a table in the place of the one of the same name. -/
def update (store : Store) (changed : StoredTable) : Store :=
  { store with
    tables :=
      store.tables.map fun table =>
        if table.definition.name = changed.definition.name then changed
        else table }

/-- The only column of a table that takes rows of one value. -/
def onlyColumn (table : TableDefinition) : Except Fault ColumnDefinition :=
  match table.columns with
  | [column] => .ok column
  | columns => .error (.valueCount table.name columns.length)

/-- The primary key repeats no value. -/
def checkUnique (table : StoredTable) (column : ColumnDefinition)
    (added : List Int) : Except Fault Unit :=
  if column.isKey && added.any table.integers.contains then
    .error (.notUnique table.definition.name column.name)
  else .ok ()

/-- The tables referred to have the values that were added. -/
def checkMatched (store : Store) (added : List Int) :
    List Reference → Except Fault Unit
  | [] => .ok ()
  | reference :: references => do
      let parent ← store.parent reference
      if added.all parent.integers.contains then
        store.checkMatched added references
      else
        throw .unmatchedKey

/-- Adds distinct integers, one at least, to a table of one column.  References
to the table are looked at only when several rows are added at once. -/
def addRows (store : Store) (table : StoredTable) (added : List Int) :
    Except Fault Store := do
  let definition := table.definition
  let own := ownReferences definition
  if added.isEmpty then throw .incomplete
  let column ← onlyColumn definition
  store.checkReferences own
  if 1 < added.length then
    store.checkReferences (store.referencesTo definition.name)
  checkUnique table column added
  let changed :=
    store.update { table with integers := table.integers ++ added }
  changed.checkMatched added own
  return changed

/-- Whether a stored integer is less than a bound.  In a column of text the
numerals are compared. -/
def isBelow (affinity : Affinity) (bound value : Int) : Bool :=
  match affinity with
  | .text => toString value < toString bound
  | _ => value < bound

/-- Removes the integers below a bound from a table with a column `v`, and
counts them. -/
def removeBelow (store : Store) (table : StoredTable) (bound : Int) :
    Except Fault (Nat × Store) := do
  let definition := table.definition
  match definition.columns.find? (sameName scratchColumn ·.name) with
  | none => throw (.noColumn scratchColumn)
  | some column =>
      store.checkReferences (ownReferences definition)
      store.checkReferences (store.referencesTo definition.name)
      let (removed, kept) :=
        table.integers.partition (isBelow column.affinity bound)
      return (removed.length, store.update { table with integers := kept })

/-- Fails unless the scratch table exists. -/
def scratchTable (store : Store) : Except Fault StoredTable :=
  match store.find? scratchName with
  | some table => .ok table
  | none => .error (.noTable scratchName)

/-- Stores the integers below a count in the scratch table, and counts them.
The table remains even if it does not take them. -/
def fill (count : Nat) : EngineM Store Fault Nat := do
  unless (← get).listsTable scratchName do
    set (← (← get).createTable scratch)
  let store ← get
  let table ← store.scratchTable
  set (← store.addRows table ((List.range count).map Int.ofNat))
  return count

/-- Removes the integers below a bound from the scratch table, and counts
them. -/
def clear (bound : Int) : EngineM Store Fault Nat := do
  let store ← get
  let table ← store.scratchTable
  let (count, changed) ← store.removeBelow table bound
  set changed
  return count

end TypedSql.Store
