/-!
# Aggregates

Attaching an aggregate to a column is final.  A second one is remembered only
so that its use can be refused, and further ones change nothing.
-/

namespace TypedSql

inductive Aggregate where
  | count
  | sum
  | avg
  | min
  | max
deriving DecidableEq, Repr

def Aggregate.keyword : Aggregate → String
  | .count => "COUNT"
  | .sum => "SUM"
  | .avg => "AVG"
  | .min => "MIN"
  | .max => "MAX"

/-- The aggregates attached to a column so far. -/
inductive Aggregation where
  | plain
  | single (aggregate : Aggregate)
  | nested (inner outer : Aggregate)
deriving DecidableEq, Repr

namespace Aggregation

def attach : Aggregation → Aggregate → Aggregation
  | .plain, aggregate => .single aggregate
  | .single inner, aggregate => .nested inner aggregate
  | .nested inner outer, _ => .nested inner outer

/-- The aggregate in force: the one attached first. -/
def aggregate? : Aggregation → Option Aggregate
  | .plain => none
  | .single aggregate => some aggregate
  | .nested inner _ => some inner

end Aggregation

end TypedSql
