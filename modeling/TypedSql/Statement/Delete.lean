import TypedSql.Statement.Selection

/-!
# Delete statements

A delete removes whole rows.  What it returns are records, unless columns are
listed, which makes them tuples.
-/

namespace TypedSql

structure Delete where
  statement : Statement
  shape : RowShape

/-- The clauses that may be added to a delete. -/
inductive DeleteCall where
  | filter (predicate : Predicate)
  | returning (columns : List Column)
  | returningAll

namespace DeleteCall

/-- The slot that a call fills in a delete from a table. -/
def slot (table : String) : DeleteCall → Except Error Slot
  | .filter predicate => Slot.ofPredicate table predicate
  | .returning columns =>
      Slot.ofColumns table .returning columns Column.name ""
  | .returningAll => .ok Slot.returningAll

/-- The shape of the rows after a call.  Listed columns are tuples. -/
def shape (before : RowShape) : DeleteCall → RowShape
  | .returning _ => .tuple
  | _ => before

end DeleteCall

namespace Delete

def wholeTable (table : String) : Statement :=
  (Statement.empty .delete table).addAll
    [.ok (Slot.ofText .delete ("DELETE FROM " ++ table))]

/-- Columns are no target, and the statement says so. -/
def projection (columns : List Column) : Statement :=
  let table := (columns.head?.map (·.table)).getD ""
  (Statement.empty .delete table).fail .deletedColumns

/-- The delete of whole rows. -/
def ofSelection (selection : Selection) : Delete :=
  { statement :=
      match selection with
      | .records entity => wholeTable entity.tableName
      | .rows schema => wholeTable schema.tableName
      | .columns columns => projection columns
    shape := selection.shape }

def call (delete : Delete) (call : DeleteCall) : Delete :=
  { statement := delete.statement.add (call.slot delete.statement.table)
    shape := call.shape delete.shape }

/-- The delete after a chain of calls. -/
def chain (delete : Delete) (calls : List DeleteCall) : Delete :=
  calls.foldl call delete

def filter (delete : Delete) (predicate : Predicate) : Delete :=
  delete.call (.filter predicate)

/-- Returns the listed columns of every row that was removed, as tuples. -/
def returning (delete : Delete) (columns : List Column) : Delete :=
  delete.call (.returning columns)

/-- Returns every row that was removed. -/
def returningAll (delete : Delete) : Delete :=
  delete.call .returningAll

def build (delete : Delete) : Except Error Query :=
  delete.statement.render

end Delete

end TypedSql
