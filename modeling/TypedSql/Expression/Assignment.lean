import TypedSql.Expression.Predicate

/-!
# Assignments

An assignment changes a column by an arithmetic operation with an operand.
-/

namespace TypedSql

inductive Arithmetic where
  | add
  | sub
  | mul
  | div
deriving DecidableEq, Repr

def Arithmetic.symbol : Arithmetic → String
  | .add => "+"
  | .sub => "-"
  | .mul => "*"
  | .div => "/"

structure Assignment where
  table : String
  column : String
  operation : Arithmetic
  operand : Value

def Assignment.render (assignment : Assignment) : Fragment :=
  { sql :=
      assignment.column ++ " = " ++ assignment.column ++ " " ++
        assignment.operation.symbol ++ " ?"
    values := [assignment.operand] }

/-- The column changed by an operand of its kind. -/
def Column.assign (column : Column) (operation : Arithmetic)
    (operand : Value) : Except Error Assignment := do
  column.requirePlain
  column.checkOperand operand
  return {
    table := column.table
    column := column.name
    operation := operation
    operand := operand }

end TypedSql
