import TypedSql.Expression.Column

/-!
# Lists of columns

Several clauses list columns.  Such a list is not empty, its columns carry at
most one aggregate each, and all belong to the table of the statement.  What is
wrong with a list is found in this order.
-/

namespace TypedSql.ColumnList

/-- All columns belong to the table; the first that does not is reported. -/
def checkTable (table : String) (columns : List Column) : Except Error Unit :=
  match columns.find? (·.table ≠ table) with
  | some column => .error (.crossTable table column.table)
  | none => .ok ()

/-- The columns as a list of terms with commas between them. -/
def write (table : String) (columns : List Column) (term : Column → String) :
    Except Error String := do
  if columns.isEmpty then
    throw (.invalidSelection "column list must not be empty")
  columns.forM Column.validate
  checkTable table columns
  return ", ".intercalate (columns.map term)

end TypedSql.ColumnList
