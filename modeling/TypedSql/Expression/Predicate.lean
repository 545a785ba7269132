import TypedSql.Expression.Column

/-!
# Predicates

A predicate is a tree of comparisons.  It is written with a placeholder for
every operand; the operands follow in the order of their placeholders.
-/

namespace TypedSql

/-- A piece of a statement's text, with the values for its placeholders from
left to right. -/
structure Fragment where
  sql : String
  values : List Value

inductive Comparison where
  | eq
  | ne
  | lt
  | le
  | gt
  | ge
deriving DecidableEq, Repr

def Comparison.symbol : Comparison → String
  | .eq => "="
  | .ne => "!="
  | .lt => "<"
  | .le => "<="
  | .gt => ">"
  | .ge => ">="

inductive Predicate where
  | compare (table column : String) (comparison : Comparison) (operand : Value)
  | among (table column : String) (operands : List Value)
  | both (left right : Predicate)
  | either (left right : Predicate)

namespace Predicate

/-- All columns in the tree belong to the table; the leftmost that does not is
reported. -/
def checkTable (table : String) : Predicate → Except Error Unit
  | .compare owner _ _ _ =>
      if owner = table then .ok () else .error (.crossTable table owner)
  | .among owner _ _ =>
      if owner = table then .ok () else .error (.crossTable table owner)
  | .both left right => do
      left.checkTable table
      right.checkTable table
  | .either left right => do
      left.checkTable table
      right.checkTable table

/-- What stands between a column and the placeholder of its operand.  Equality
with null is a test for null. -/
def relation (comparison : Comparison) (operand : Value) : String :=
  match comparison, operand.isNull with
  | .eq, true => "IS"
  | .ne, true => "IS NOT"
  | comparison, _ => comparison.symbol

def sql : Predicate → String
  | .compare _ column comparison operand =>
      column ++ " " ++ relation comparison operand ++ " ?"
  | .among _ column operands =>
      column ++ " IN (" ++ ", ".intercalate (operands.map fun _ => "?") ++ ")"
  | .both left right => "(" ++ left.sql ++ " AND " ++ right.sql ++ ")"
  | .either left right => "(" ++ left.sql ++ " OR " ++ right.sql ++ ")"

/-- Operands of the leaves from left to right. -/
def operands : Predicate → List Value
  | .compare _ _ _ operand => [operand]
  | .among _ _ operands => operands
  | .both left right => left.operands ++ right.operands
  | .either left right => left.operands ++ right.operands

def render (predicate : Predicate) : Fragment :=
  { sql := predicate.sql, values := predicate.operands }

end Predicate

namespace Column

/-- The column compared with an operand. -/
def compare (column : Column) (comparison : Comparison) (operand : Value) :
    Except Error Predicate := do
  column.requirePlain
  column.checkOperand operand
  return .compare column.table column.name comparison operand

/-- The column is one of the operands, of which there is at least one. -/
def inList (column : Column) (operands : List Value) :
    Except Error Predicate := do
  column.requirePlain
  if operands.isEmpty then throw (.emptyOperand column.table column.name)
  operands.forM column.checkOperand
  return .among column.table column.name operands

end Column

end TypedSql
