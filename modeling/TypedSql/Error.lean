import TypedSql.Expression.Aggregate
import TypedSql.Statement.Clause
import TypedSql.Value.Decoding

/-!
# Errors

Everything that can go wrong while a statement is put together, rendered or
executed, with its message.  All errors but `Error.storage` are found without
the storage engine.
-/

namespace TypedSql

inductive Error where
  /-- An operand disagrees with the declared kind of its column. -/
  | typeMismatch (table field : String) (expected : Kind) (found : Option Kind)
  | unknownField (table field : String)
  /-- A list of operands is empty. -/
  | emptyOperand (table field : String)
  /-- A column with an aggregate is compared or assigned. -/
  | aggregatedOperand (table field : String) (aggregate : Aggregate)
  | nestedAggregate (table field : String) (inner outer : Aggregate)
  | duplicateClause (clause : Clause)
  | missingClause (clause : Clause)
  /-- An update is limited although it returns nothing. -/
  | limitWithoutReturning
  /-- The clause is not accepted by statements of the kind. -/
  | unsupportedClause (kind : StatementKind) (clause : Clause)
  /-- A column of another table is used. -/
  | crossTable (expected found : String)
  | invalidSelection (reason : String)
  /-- An update without assignments. -/
  | noAssignments
  /-- A delete of columns in place of whole rows. -/
  | deletedColumns
  | rowArity (table : String) (expected actual : Nat)
  | undecodable (table field : String) (cause : DecodeError)
  /-- The storage engine failed, with a message of its own. -/
  | storage (failure : String)

namespace Error

def message : Error → String
  | .typeMismatch table field expected found =>
      "type mismatch on " ++ table ++ "." ++ field ++ ": expected " ++
        expected.name ++ ", found " ++ Kind.nameOrNull found
  | .unknownField table field =>
      "table '" ++ table ++ "' has no field '" ++ field ++ "'"
  | .emptyOperand table field =>
      "empty operand list for " ++ table ++ "." ++ field
  | .aggregatedOperand table field aggregate =>
      aggregate.keyword ++ "(" ++ field ++ ") on '" ++ table ++
        "' cannot be compared or assigned"
  | .nestedAggregate table field inner outer =>
      outer.keyword ++ " cannot be applied to " ++ inner.keyword ++ "(" ++
        field ++ ") on '" ++ table ++ "'"
  | .duplicateClause clause => clause.keyword ++ " clause added more than once"
  | .missingClause clause =>
      "statement is missing its " ++ clause.keyword ++ " clause"
  | .limitWithoutReturning =>
      "unsupported clause combination: LIMIT or OFFSET on an update " ++
        "requires RETURNING"
  | .unsupportedClause kind clause =>
      clause.keyword ++ " is not supported on " ++ kind.keyword ++
        " statements"
  | .crossTable expected found =>
      "columns must belong to '" ++ expected ++ "' but '" ++ found ++
        "' was given"
  | .invalidSelection reason => "invalid selection: " ++ reason
  | .noAssignments =>
      "invalid update target: update takes at least one assignment; " ++
        "use replace for whole records"
  | .deletedColumns =>
      "invalid delete target: delete takes a whole table, " ++
        "not a column projection"
  | .rowArity table expected actual =>
      "row has " ++ toString actual ++ " values but table '" ++ table ++
        "' declares " ++ toString expected ++ " fields"
  | .undecodable table field cause =>
      "cannot decode " ++ table ++ "." ++ field ++ ": " ++ cause.message
  | .storage failure => failure

/-- The message of the storage engine, if the error came from there. -/
def storage? : Error → Option String
  | .storage failure => some failure
  | _ => none

end Error

end TypedSql
