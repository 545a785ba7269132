import TypedSql.Statement

/-!
# Rendered statements

The clauses of a statement are written in the order of its kind, whatever the
order in which they were added, and their values are bound in the order of
their placeholders.
-/

namespace TypedSql

/-- The text of a statement and the data bound to its placeholders. -/
structure Query where
  sql : String
  parameters : List Datum
deriving DecidableEq

namespace Slot

/-- Puts a slot in front of the first one that does not rank lower. -/
def insertByRank (kind : StatementKind) (slot : Slot) : List Slot → List Slot
  | [] => [slot]
  | other :: rest =>
      if kind.rank slot.clause ≤ kind.rank other.clause then
        slot :: other :: rest
      else
        other :: insertByRank kind slot rest

/-- The slots by rank; slots of equal rank keep their order. -/
def sortByRank (kind : StatementKind) (slots : List Slot) : List Slot :=
  slots.foldr (insertByRank kind) []

/-- The first clause that two neighbouring slots share. -/
def firstRepeated? : List Slot → Option Clause
  | first :: second :: rest =>
      if first.clause = second.clause then some first.clause
      else firstRepeated? (second :: rest)
  | _ => none

end Slot

namespace Statement

/-- The slots to be written, in order. -/
def orderedSlots (statement : Statement) : List Slot :=
  let slots :=
    if statement.has .offset && !statement.has .limit then
      statement.slots ++ [Slot.unlimited]
    else
      statement.slots
  Slot.sortByRank statement.kind slots

/-- An update that bounds its rows has to return them. -/
def limitsSilently (statement : Statement) : Bool :=
  statement.kind = .update &&
    (statement.has .limit || statement.has .offset) &&
    !statement.has .returning

/-- The statement as a query.  An error that was kept comes first; then a
missing clause, an unsupported combination and a repeated clause. -/
def render (statement : Statement) : Except Error Query :=
  match statement.error with
  | some error => .error error
  | none =>
      match statement.kind.mandatory.find? (!statement.has ·) with
      | some clause => .error (.missingClause clause)
      | none =>
          if statement.limitsSilently then .error .limitWithoutReturning
          else
            let slots := statement.orderedSlots
            match Slot.firstRepeated? slots with
            | some clause => .error (.duplicateClause clause)
            | none =>
                .ok
                  { sql := " ".intercalate (slots.map (·.sql))
                    parameters :=
                      slots.flatMap (·.values.map Value.toDatum) }

end Statement

end TypedSql
