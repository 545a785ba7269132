/-!
# Clauses

A statement of each kind accepts certain clauses, in a fixed order, and needs
some of them.
-/

namespace TypedSql

inductive Clause where
  | select
  | source
  | delete
  | update
  | assignments
  | filter
  | groupBy
  | orderBy
  | limit
  | offset
  | returning
deriving DecidableEq, Repr

/-- Keyword that a clause begins with. -/
def Clause.keyword : Clause → String
  | .select => "SELECT"
  | .source => "FROM"
  | .delete => "DELETE"
  | .update => "UPDATE"
  | .assignments => "SET"
  | .filter => "WHERE"
  | .groupBy => "GROUP BY"
  | .orderBy => "ORDER BY"
  | .limit => "LIMIT"
  | .offset => "OFFSET"
  | .returning => "RETURNING"

inductive StatementKind where
  | select
  | update
  | delete
deriving DecidableEq, Repr

namespace StatementKind

def keyword : StatementKind → String
  | .select => "SELECT"
  | .update => "UPDATE"
  | .delete => "DELETE"

/-- Clauses that statements of a kind accept, in the order of the text. -/
def clauses : StatementKind → List Clause
  | .select =>
      [.select, .source, .filter, .groupBy, .orderBy, .limit, .offset]
  | .update =>
      [.update, .assignments, .source, .filter, .returning, .orderBy, .limit,
        .offset]
  | .delete => [.delete, .filter, .returning]

/-- Clauses that statements of a kind cannot do without. -/
def mandatory : StatementKind → List Clause
  | .select => [.select, .source]
  | .update => [.update, .assignments]
  | .delete => [.delete]

/-- Place of an accepted clause in the text. -/
def rank (kind : StatementKind) (clause : Clause) : Nat :=
  kind.clauses.idxOf clause

end StatementKind

end TypedSql
