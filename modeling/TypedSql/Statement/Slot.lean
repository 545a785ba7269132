import TypedSql.Expression.ColumnList
import TypedSql.Expression.Predicate

/-!
# Slots

A slot holds one clause of a statement.  A clause that mentions columns can
only be filled with those of the statement's table, so making its slot may
fail.
-/

namespace TypedSql

/-- The text of a clause and the values for its placeholders, from left to
right. -/
structure Slot where
  clause : Clause
  sql : String
  values : List Value

namespace Slot

/-- A clause that lists columns of a table. -/
def ofColumns (table : String) (clause : Clause) (columns : List Column)
    (term : Column → String) (ending : String) : Except Error Slot := do
  let list ← ColumnList.write table columns term
  return {
    clause := clause
    sql := clause.keyword ++ " " ++ list ++ ending
    values := [] }

/-- The condition on the rows of a table. -/
def ofPredicate (table : String) (predicate : Predicate) :
    Except Error Slot := do
  predicate.checkTable table
  return {
    clause := .filter
    sql := "WHERE " ++ predicate.sql
    values := predicate.operands }

/-- A clause without placeholders. -/
def ofText (clause : Clause) (sql : String) : Slot :=
  { clause := clause, sql := sql, values := [] }

/-- Bounds the number of rows. -/
def limit (count : Int64) : Slot :=
  { clause := .limit, sql := "LIMIT ?", values := [.integer count] }

/-- Skips a number of rows. -/
def offset (count : Int64) : Slot :=
  { clause := .offset, sql := "OFFSET ?", values := [.integer count] }

/-- Returns whole rows. -/
def returningAll : Slot :=
  ofText .returning "RETURNING *"

/-- The engine takes no offset without a limit; minus one bounds nothing. -/
def unlimited : Slot :=
  ofText .limit "LIMIT -1"

end Slot

end TypedSql
