import TypedSql.Statement.Selection

/-!
# Select statements

A select of whole records yields records.  A select of columns, and any select
that groups its rows, yields tuples.
-/

namespace TypedSql

structure Select where
  statement : Statement
  shape : RowShape

/-- The clauses that may be added to a select. -/
inductive SelectCall where
  | filter (predicate : Predicate)
  | orderBy (columns : List Column) (direction : Direction)
  | limit (count : Int64)
  | offset (count : Int64)
  | groupBy (columns : List Column)

namespace SelectCall

/-- The slot that a call fills in a select from a table. -/
def slot (table : String) : SelectCall → Except Error Slot
  | .filter predicate => Slot.ofPredicate table predicate
  | .orderBy columns direction =>
      Slot.ofColumns table .orderBy columns Column.render
        (" " ++ direction.keyword)
  | .limit count => .ok (Slot.limit count)
  | .offset count => .ok (Slot.offset count)
  | .groupBy columns => Slot.ofColumns table .groupBy columns Column.name ""

/-- The shape of the rows after a call.  Groups are tuples. -/
def shape (before : RowShape) : SelectCall → RowShape
  | .groupBy _ => .tuple
  | _ => before

end SelectCall

namespace Select

/-- Selects all columns of a table. -/
def wholeTable (table : String) : Statement :=
  (Statement.empty .select table).addAll
    [.ok (Slot.ofText .select "SELECT *"),
      .ok (Slot.ofText .source ("FROM " ++ table))]

/-- Selects listed columns, of which there is at least one, from the table of
the first. -/
def projection : List Column → Statement
  | [] =>
      (Statement.empty .select "").fail
        (.invalidSelection "at least one column must be selected")
  | first :: others =>
      let statement := Statement.empty .select first.table
      match ColumnList.write first.table (first :: others) Column.render with
      | .ok list =>
          statement.addAll
            [.ok (Slot.ofText .select ("SELECT " ++ list)),
              .ok (Slot.ofText .source ("FROM " ++ first.table))]
      | .error error => statement.fail error

/-- The select of all rows. -/
def ofSelection (selection : Selection) : Select :=
  { statement :=
      match selection with
      | .records entity => wholeTable entity.tableName
      | .rows schema => wholeTable schema.tableName
      | .columns columns => projection columns
    shape := selection.shape }

def call (select : Select) (call : SelectCall) : Select :=
  { statement := select.statement.add (call.slot select.statement.table)
    shape := call.shape select.shape }

/-- The select after a chain of calls. -/
def chain (select : Select) (calls : List SelectCall) : Select :=
  calls.foldl call select

def filter (select : Select) (predicate : Predicate) : Select :=
  select.call (.filter predicate)

def orderBy (select : Select) (columns : List Column) : Select :=
  select.call (.orderBy columns .ascending)

def orderByDesc (select : Select) (columns : List Column) : Select :=
  select.call (.orderBy columns .descending)

def limit (select : Select) (count : Int64) : Select :=
  select.call (.limit count)

def offset (select : Select) (count : Int64) : Select :=
  select.call (.offset count)

def groupBy (select : Select) (columns : List Column) : Select :=
  select.call (.groupBy columns)

def build (select : Select) : Except Error Query :=
  select.statement.render

end Select

end TypedSql
