import TypedSql.Decimal.Shortest

/-!
# Rounding of decimals

A decimal is cut down to its leading digits, or freed of zeros at its end.
-/

namespace TypedSql.Decimal

-- Powers are those of the core library, whatever else is imported.
attribute [local instance (high)] instPowNat

/-- The leading digits of a decimal, a half behind them rounded up.  A decimal
with no more digits stays as it is. -/
def roundTo (count : Nat) (decimal : Decimal) : Decimal :=
  let dropped := decimal.digits.length - count
  { coefficient :=
      (2 * decimal.coefficient + 10 ^ dropped) / (2 * 10 ^ dropped)
    exponent := decimal.exponent + dropped }

/-- The same number without zeros at the end of its digits. -/
def dropTrailingZeros (decimal : Decimal) : Decimal :=
  let zeros := (decimal.digits.reverse.takeWhile (· = '0')).length
  { coefficient := decimal.coefficient / 10 ^ zeros
    exponent := decimal.exponent + zeros }

end TypedSql.Decimal
