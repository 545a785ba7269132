/-!
# Double-precision numbers

A double is kept as its 64-bit pattern.  The pattern tells every double from
every other, the two zeros and the NaNs with their payloads included, which
the numeric comparison `Binary64.numericEq` does not.
-/

namespace TypedSql

/-- An IEEE 754 double-precision number, as its interchange bit pattern. -/
structure Binary64 where
  bits : UInt64
deriving DecidableEq, Inhabited, Repr

namespace Binary64

-- Powers are those of the core library, whatever else is imported.
attribute [local instance (high)] instPowNat

/-- The bit pattern of the negative zero. -/
def signBit : Nat := 0x8000000000000000

/-- The leading bit of the significand of a normal number, which its pattern
leaves out.  So many patterns make up a binade. -/
def leadingBit : Nat := 0x10000000000000

/-- Bits below the sign bit. -/
def magnitude (number : Binary64) : Nat :=
  number.bits.toNat % signBit

/-- Magnitude bits of the infinities; a NaN lies above, a finite number
below. -/
def infinityMagnitude : Nat := 0x7FF * leadingBit

def isNegative (number : Binary64) : Bool :=
  signBit ≤ number.bits.toNat

def isNaN (number : Binary64) : Bool :=
  infinityMagnitude < number.magnitude

def isInfinite (number : Binary64) : Bool :=
  number.magnitude = infinityMagnitude

def isFinite (number : Binary64) : Bool :=
  number.magnitude < infinityMagnitude

def isZero (number : Binary64) : Bool :=
  number.magnitude = 0

/-- The binade of a finite number: the exponent field, with the subnormal
numbers counted among the least normal ones. -/
def binade (number : Binary64) : Nat :=
  max 1 (number.magnitude / leadingBit)

/-- Integer significand of a finite number, whose absolute value is
`significand * 2 ^ (binade - 1075)`. -/
def significand (number : Binary64) : Nat :=
  if number.magnitude < leadingBit then number.magnitude
  else leadingBit + number.magnitude % leadingBit

/-- Absolute value of a finite number as a numerator and a denominator. -/
def ratio (number : Binary64) : Nat × Nat :=
  (number.significand * 2 ^ (number.binade - 1075),
    2 ^ (1075 - number.binade))

/-- Equality of the numbers denoted: the zeros are equal, and a NaN differs
from everything, itself included. -/
def numericEq (left right : Binary64) : Bool :=
  !left.isNaN && !right.isNaN &&
    (left.bits == right.bits || left.isZero && right.isZero)

/-- The number with the opposite sign. -/
def negate (number : Binary64) : Binary64 :=
  { bits := number.bits ^^^ 0x8000000000000000 }

/-- Magnitude bits of `2 ^ -52`, the distance from one to the next double. -/
def unitSpacingMagnitude : Nat := (1023 - 52) * leadingBit

/-- Whether the absolute value is less than the spacing of doubles at one.
No NaN is. -/
def isNegligible (number : Binary64) : Bool :=
  number.magnitude < unitSpacingMagnitude

def zero : Binary64 := { bits := 0 }

end Binary64

end TypedSql
