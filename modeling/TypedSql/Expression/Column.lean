import TypedSql.Error

/-!
# Columns

A column refers to one field of a table.  Operands are checked against its
kind before any text is written.  A column with an aggregate may be selected,
ordered or grouped by, but not compared or assigned.
-/

namespace TypedSql

structure Column where
  table : String
  name : String
  kind : Kind
  nullable : Bool
  aggregation : Aggregation
deriving DecidableEq

namespace Column

def aggregate? (column : Column) : Option Aggregate :=
  column.aggregation.aggregate?

/-- The column with an aggregate attached. -/
def aggregated (column : Column) (aggregate : Aggregate) : Column :=
  { column with aggregation := column.aggregation.attach aggregate }

/-- The column as written in a select list. -/
def render (column : Column) : String :=
  match column.aggregate? with
  | some aggregate => aggregate.keyword ++ "(" ++ column.name ++ ")"
  | none => column.name

/-- A column in a list carries at most one aggregate. -/
def validate (column : Column) : Except Error Unit :=
  match column.aggregation with
  | .nested inner outer =>
      .error (.nestedAggregate column.table column.name inner outer)
  | _ => .ok ()

/-- An operand belongs to a column without aggregate. -/
def requirePlain (column : Column) : Except Error Unit :=
  match column.aggregate? with
  | some aggregate =>
      .error (.aggregatedOperand column.table column.name aggregate)
  | none => .ok ()

/-- Whether a value is of the declared kind, or a null that is allowed. -/
def accepts (column : Column) (operand : Value) : Bool :=
  match operand.kind? with
  | some kind => kind = column.kind
  | none => column.nullable

def checkOperand (column : Column) (operand : Value) : Except Error Unit :=
  if column.accepts operand then .ok ()
  else
    .error (.typeMismatch column.table column.name column.kind operand.kind?)

end Column

end TypedSql
