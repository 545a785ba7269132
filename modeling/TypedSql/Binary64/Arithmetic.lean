import TypedSql.Binary64.Nearest

/-!
# Arithmetic of doubles

A finite double denotes a rational number.  The sum, the difference, the
product and the quotient of finite doubles are the doubles nearest to the
exact results; an exact zero becomes the positive zero.
-/

namespace TypedSql.Binary64

/-- The number that a finite double denotes. -/
def toRat (number : Binary64) : Rat :=
  let (numerator, denominator) := number.ratio
  let size := mkRat numerator denominator
  if number.isNegative then -size else size

/-- The double nearest to a rational number. -/
def ofRat (value : Rat) : Binary64 :=
  let size := ofRatio value.num.natAbs value.den
  if value < 0 then size.negate else size

instance : Add Binary64 where
  add left right := ofRat (left.toRat + right.toRat)

instance : Sub Binary64 where
  sub left right := ofRat (left.toRat - right.toRat)

instance : Mul Binary64 where
  mul left right := ofRat (left.toRat * right.toRat)

/-- The divisor must not be zero. -/
instance : Div Binary64 where
  div left right := ofRat (left.toRat / right.toRat)

end TypedSql.Binary64
