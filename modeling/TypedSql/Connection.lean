import TypedSql.Value.Datum

/-!
# Connections

A connection executes statements on a storage engine.  What the engine does is
an action on its state; an action that fails says why, and may have changed the
state all the same.
-/

namespace TypedSql

/-- Actions on an engine with states in `σ`, which fail with causes in `ε`. -/
abbrev EngineM (σ ε : Type) : Type → Type :=
  ExceptT ε (StateM σ)

/-- A row of a result: the names of its columns, and their data. -/
structure Row where
  fields : List (String × Datum)
deriving DecidableEq

namespace Row

def width (row : Row) : Nat :=
  row.fields.length

def isEmpty (row : Row) : Bool :=
  row.fields.isEmpty

def data (row : Row) : List Datum :=
  row.fields.map (·.2)

end Row

/-- The services of a storage engine, whose failures are in its own words. -/
structure Connection (σ : Type) where
  /-- Executes a statement and returns the rows of its result. -/
  query : (sql : String) → (parameters : List Datum) →
    EngineM σ String (List Row)
  /-- Executes a statement and returns the number of rows it affected. -/
  exec : (sql : String) → (parameters : List Datum) → EngineM σ String Nat
  /-- Ends an open transaction. -/
  commit : EngineM σ String Unit
  /-- Whether the catalog lists a table. -/
  tableExists : (name : String) → EngineM σ String Bool

end TypedSql
