import TypedSql.Statement.Slot

/-!
# Statements

A statement collects slots in any order.  The first error met on the way is
kept, and later ones are dropped.
-/

namespace TypedSql

structure Statement where
  kind : StatementKind
  table : String
  slots : List Slot
  error : Option Error

namespace Statement

def empty (kind : StatementKind) (table : String) : Statement :=
  { kind := kind, table := table, slots := [], error := none }

/-- Whether a clause has been added. -/
def has (statement : Statement) (clause : Clause) : Bool :=
  statement.slots.any (·.clause = clause)

/-- Adds a slot whose clause statements of the kind accept.  A second slot for
one clause is only refused when the statement is rendered. -/
def push (statement : Statement) (slot : Slot) : Except Error Statement :=
  if slot.clause ∈ statement.kind.clauses then
    .ok { statement with slots := statement.slots ++ [slot] }
  else
    .error (.unsupportedClause statement.kind slot.clause)

/-- Keeps an error, unless one is kept already. -/
def fail (statement : Statement) (error : Error) : Statement :=
  { statement with error := statement.error.or (some error) }

/-- Keeps the error of a result, if it is one. -/
def check (statement : Statement) (result : Except Error Unit) : Statement :=
  match result with
  | .ok _ => statement
  | .error error => statement.fail error

/-- Adds a slot, or keeps the error that stands in its place or refuses it. -/
def add (statement : Statement) (slot : Except Error Slot) : Statement :=
  match slot >>= statement.push with
  | .ok extended => extended
  | .error error => statement.fail error

/-- Adds slots one after the other. -/
def addAll (statement : Statement) (slots : List (Except Error Slot)) :
    Statement :=
  slots.foldl add statement

end Statement

end TypedSql
