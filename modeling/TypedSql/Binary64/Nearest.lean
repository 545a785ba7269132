import TypedSql.Binary64

/-!
# Rounding to the nearest double

`Binary64.ofRatio` rounds a non-negative quotient of natural numbers to the
nearest double, a tie to the one with an even significand, in exact natural
number arithmetic.  Conversion of integers is this one rounding of an exact
value.
-/

namespace TypedSql.Binary64

-- Powers are those of the core library, whatever else is imported.
attribute [local instance (high)] instPowNat

/-- Quotient rounded to the nearest natural number, a tie to the even one. -/
def roundQuotient (numerator denominator : Nat) : Nat :=
  let floor := numerator / denominator
  let excess := 2 * (numerator % denominator)
  if excess < denominator then floor
  else if denominator < excess then floor + 1
  else floor + floor % 2

/-- The binade of the double nearest to `numerator / denominator`: the one in
which a significand has 53 bits, and at least the first. -/
def binadeOfRatio (numerator denominator : Nat) : Nat :=
  let estimate := numerator.log2 + 1023 - denominator.log2
  if numerator * 2 ^ (1023 - estimate) <
      denominator * 2 ^ (estimate - 1023) then
    max 1 (estimate - 1)
  else
    max 1 estimate

/-- The double nearest to `numerator / denominator`, a tie to the even
significand; infinity from half a step above the greatest double on. -/
def ofRatio (numerator denominator : Nat) : Binary64 :=
  if numerator = 0 then zero
  else
    let binade := binadeOfRatio numerator denominator
    let significand :=
      roundQuotient (numerator * 2 ^ (1075 - binade))
        (denominator * 2 ^ (binade - 1075))
    let magnitude := (binade - 1) * leadingBit + significand
    { bits := (min magnitude infinityMagnitude).toUInt64 }

/-- The double nearest to a natural number. -/
def ofNat (value : Nat) : Binary64 :=
  ofRatio value 1

/-- The double nearest to an integer. -/
def ofInt (value : Int) : Binary64 :=
  if value < 0 then (ofNat value.natAbs).negate else ofNat value.natAbs

/-- The double nearest to a power of ten. -/
def powerOfTen (exponent : Nat) : Binary64 :=
  ofNat (10 ^ exponent)

end TypedSql.Binary64
