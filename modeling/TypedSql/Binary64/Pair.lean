import TypedSql.Binary64.Arithmetic

/-!
# Pairs of doubles

Two doubles denote their sum.  When the second is too small to show in the
first, the pair has about twice the digits of a double.
-/

namespace TypedSql.Binary64

structure Pair where
  head : Binary64
  tail : Binary64

/-- The double with the lower half of its significand cleared. -/
def upperHalf (number : Binary64) : Binary64 :=
  { bits := number.bits &&& 0xFFFFFFFFFC000000 }

namespace Pair

def ofDouble (number : Binary64) : Pair :=
  { head := number, tail := zero }

/-- The double nearest to a number, and the one nearest to what is left. -/
def ofRat (value : Rat) : Pair :=
  let head := Binary64.ofRat value
  { head := head, tail := Binary64.ofRat (value - head.toRat) }

/-- A product in which the heads are multiplied in halves, so that most of what
the rounding of their product loses is known and goes into the tail.  An upper
half has 27 bits, so a product of two may still lose its last bit. -/
def times (left right : Pair) : Pair :=
  let leftUpper := left.head.upperHalf
  let leftLower := left.head - leftUpper
  let rightUpper := right.head.upperHalf
  let rightLower := right.head - rightUpper
  let leading := leftUpper * rightUpper
  let crossing := leftUpper * rightLower + leftLower * rightUpper
  let product := leading + crossing
  let lost := leading - product + crossing + leftLower * rightLower
  let correction := left.head * right.tail + left.tail * right.head + lost
  let head := product + correction
  { head := head, tail := product - head + correction }

end Pair

end TypedSql.Binary64
