import TypedSql.Expression.Assignment
import TypedSql.Statement.Selection

/-!
# Update statements

An update applies one or more assignments to one table.  The rows that it
returns are tuples.
-/

namespace TypedSql

structure Update where
  statement : Statement

/-- The clauses that may be added to an update. -/
inductive UpdateCall where
  | filter (predicate : Predicate)
  | returning (columns : List Column)
  | returningAll
  | orderBy (columns : List Column) (direction : Direction)
  | limit (count : Int64)
  | offset (count : Int64)

/-- The slot that a call fills in an update of a table. -/
def UpdateCall.slot (table : String) : UpdateCall → Except Error Slot
  | .filter predicate => Slot.ofPredicate table predicate
  | .returning columns =>
      Slot.ofColumns table .returning columns Column.name ""
  | .returningAll => .ok Slot.returningAll
  | .orderBy columns direction =>
      Slot.ofColumns table .orderBy columns Column.name
        (" " ++ direction.keyword)
  | .limit count => .ok (Slot.limit count)
  | .offset count => .ok (Slot.offset count)

namespace Update

/-- All assignments as one clause. -/
def assignmentSlot (assignments : List Assignment) : Slot :=
  let targets := assignments.map Assignment.render
  { clause := .assignments
    sql := "SET " ++ ", ".intercalate (targets.map (·.sql))
    values := targets.flatMap (·.values) }

/-- Assigns to columns of the table of the first assignment. -/
def assigning : List Assignment → Statement
  | [] => (Statement.empty .update "").fail .noAssignments
  | first :: others =>
      let statement := Statement.empty .update first.table
      match others.find? (·.table ≠ first.table) with
      | some other => statement.fail (.crossTable first.table other.table)
      | none =>
          statement.addAll
            [.ok (Slot.ofText .update ("UPDATE " ++ first.table)),
              .ok (assignmentSlot (first :: others))]

/-- The update of all rows. -/
def ofAssignments (assignments : List Assignment) : Update :=
  { statement := assigning assignments }

def call (update : Update) (call : UpdateCall) : Update :=
  { statement := update.statement.add (call.slot update.statement.table) }

/-- The update after a chain of calls. -/
def chain (update : Update) (calls : List UpdateCall) : Update :=
  calls.foldl call update

def filter (update : Update) (predicate : Predicate) : Update :=
  update.call (.filter predicate)

/-- Returns the listed columns of every row that was changed. -/
def returning (update : Update) (columns : List Column) : Update :=
  update.call (.returning columns)

/-- Returns every row that was changed. -/
def returningAll (update : Update) : Update :=
  update.call .returningAll

def orderBy (update : Update) (columns : List Column) : Update :=
  update.call (.orderBy columns .ascending)

def orderByDesc (update : Update) (columns : List Column) : Update :=
  update.call (.orderBy columns .descending)

def limit (update : Update) (count : Int64) : Update :=
  update.call (.limit count)

def offset (update : Update) (count : Int64) : Update :=
  update.call (.offset count)

def build (update : Update) : Except Error Query :=
  update.statement.render

end Update

end TypedSql
