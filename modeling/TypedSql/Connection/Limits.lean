/-!
# Limits of the storage engine

A statement that goes beyond one of these limits is refused.
-/

namespace TypedSql.Limits

/-- Greatest number of columns of a table or a result. -/
def columns : Nat := 2000

/-- Greatest number of placeholders in a statement. -/
def placeholders : Nat := 32766

end TypedSql.Limits
