import TypedSql.Binary64

/-!
# Shortest decimals of a double

The reals that round to a double form an interval about it.  Of all decimals
in that interval, the shortest are the points of the coarsest decimal grid
that meets it, and of these the nearest to the double is wanted.  Everything is
computed with natural numbers: the double and the ends of its interval are
multiples of a quarter of its last place.
-/

namespace TypedSql

/-- The non-negative decimal `coefficient * 10 ^ exponent`. -/
structure Decimal where
  coefficient : Nat
  exponent : Int
deriving DecidableEq, Repr

/-- Which of two equally near neighbours is taken. -/
inductive Tie where
  /-- The greater one. -/
  | up
  /-- The one with an even last digit. -/
  | toEven
deriving DecidableEq, Repr

namespace Decimal

/-- Decimal digits of the coefficient. -/
def digits (decimal : Decimal) : List Char :=
  Nat.toDigits 10 decimal.coefficient

/-- Position of the decimal point, counted from the first digit. -/
def point (decimal : Decimal) : Int :=
  decimal.digits.length + decimal.exponent

end Decimal

namespace Binary64

-- Powers are those of the core library, whatever else is imported.
attribute [local instance (high)] instPowNat

/-- The reals that round to a positive finite double, in quarters of its last
place: `scale.1 / scale.2` is one quarter. -/
structure Neighbourhood where
  lower : Nat
  centre : Nat
  upper : Nat
  closed : Bool
  scale : Nat × Nat

/-- Below a power of two the spacing halves, so the interval reaches only half
as far down.  Its ends belong to it when the significand is even. -/
def neighbourhood (number : Binary64) : Neighbourhood :=
  let significand := number.significand
  let reach := if significand = leadingBit ∧ 1 < number.binade then 1 else 2
  { lower := 4 * significand - reach
    centre := 4 * significand
    upper := 4 * significand + 2
    closed := significand % 2 = 0
    scale := (2 ^ (number.binade - 1077), 2 ^ (1077 - number.binade)) }

/-- The nearest to the double of those of its two neighbours on the grid of
multiples of `10 ^ exponent` that round to it. -/
def nearestOnGrid? (tie : Tie) (range : Neighbourhood) (exponent : Int) :
    Option Nat :=
  let unit := range.scale.1 * 10 ^ (-exponent).toNat
  let step := range.scale.2 * 10 ^ exponent.toNat
  let centre := range.centre * unit
  let below := centre / step
  let above := below + 1
  let inside (candidate : Nat) : Bool :=
    let position := candidate * step
    if range.closed then
      range.lower * unit ≤ position && position ≤ range.upper * unit
    else
      range.lower * unit < position && position < range.upper * unit
  match inside below, inside above with
  | false, false => none
  | true, false => some below
  | false, true => some above
  | true, true =>
      let down := centre - below * step
      let up := above * step - centre
      if down < up then some below
      else if up < down then some above
      else
        match tie with
        | .up => some above
        | .toEven => some (if below % 2 = 0 then below else above)

/-- The first grid with a decimal in range, from `10 ^ exponent` down through
finer ones. -/
def searchGrids (tie : Tie) (range : Neighbourhood) : Nat → Int → Decimal
  | 0, exponent => { coefficient := 0, exponent := exponent }
  | finer + 1, exponent =>
      match nearestOnGrid? tie range exponent with
      | some coefficient => { coefficient := coefficient, exponent := exponent }
      | none => searchGrids tie range finer (exponent - 1)

/-- The shortest decimal that rounds to a positive finite double, and of the
shortest the nearest.  No grid above `10 ^ 309` has a point in range, and the
double itself is a multiple of `10 ^ (-1074)`. -/
def shortestDecimal (tie : Tie) (number : Binary64) : Decimal :=
  searchGrids tie number.neighbourhood 1384 309

end Binary64

end TypedSql
