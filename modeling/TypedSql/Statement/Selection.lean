import TypedSql.Record
import TypedSql.Statement.Rendering

/-!
# Selections

What a select reads or a delete removes, and what the rows that come back are
turned into.
-/

namespace TypedSql

inductive Selection where
  /-- All records of an entity. -/
  | records (entity : Entity)
  /-- Whole rows of a table. -/
  | rows (schema : Schema)
  | columns (columns : List Column)

/-- What a row becomes: a record of an entity, or a tuple of values. -/
inductive RowShape where
  | record (entity : Entity)
  | tuple

namespace RowShape

/-- The type of the rows. -/
abbrev Item : RowShape → Type
  | .record entity => entity.Record
  | .tuple => List Value

def ofRow : (shape : RowShape) → List Value → Except Error shape.Item
  | .record entity, row => entity.ofRow row
  | .tuple, row => .ok row

/-- What the rows become, up to the first that does not fit. -/
def ofRows (shape : RowShape) (rows : List (List Value)) :
    Except Error (List shape.Item) :=
  rows.mapM shape.ofRow

/-- What the first row becomes, if there is one. -/
def ofFirst (shape : RowShape) : List (List Value) →
    Except Error (Option shape.Item)
  | [] => .ok none
  | row :: _ => (shape.ofRow row).map some

end RowShape

/-- What the rows of a selection become, as long as no clause says
otherwise. -/
def Selection.shape : Selection → RowShape
  | .records entity => .record entity
  | .rows _ => .tuple
  | .columns _ => .tuple

/-- Direction of an order. -/
inductive Direction where
  | ascending
  | descending
deriving DecidableEq, Repr

def Direction.keyword : Direction → String
  | .ascending => "ASC"
  | .descending => "DESC"

end TypedSql
