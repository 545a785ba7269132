import TypedSql.Binary64.Pair
import TypedSql.Decimal.Layout
import TypedSql.Decimal.Rounding

/-!
# Reals as text

The storage engine writes a real with fifteen digits at most.  It scales the
real by powers of ten, as a pair of doubles, until its whole part has eighteen
or nineteen digits, and rounds these.  The products are not exact, so the
digits written need not be those of the nearest decimal.
-/

namespace TypedSql.RealText

/-- The number `value * 10 ^ exponent`. -/
structure Scaled where
  value : Binary64.Pair
  exponent : Int

/-- Greatest size of a scaled value: the greatest double below `2 ^ 63`.  The
least size is a tenth of it. -/
def ceiling : Rat := 0x7FFFFFFFFFFFFC00

/-- One way of scaling: a value beyond the bound `ceiling * 10 ^ bound` is
multiplied by `10 ^ power`. -/
structure Stage where
  power : Int
  bound : Int

/-- Values above the bound are made smaller, or values below it greater. -/
def Stage.applies (stage : Stage) (value : Binary64) : Bool :=
  let bound := Binary64.ofRat (ceiling * 10 ^ stage.bound)
  if stage.power < 0 then bound.toRat < value.toRat
  else value.toRat < bound.toRat

/-- A value passes through these stages in turn. -/
def stages : List Stage :=
  [{ power := -100, bound := 100 },
    { power := -10, bound := 10 },
    { power := -1, bound := 0 },
    { power := 100, bound := -101 },
    { power := 10, bound := -11 },
    { power := 1, bound := -1 }]

namespace Scaled

/-- Multiplies the value by a power of ten. -/
def shift (power : Int) (scaled : Scaled) : Scaled :=
  { value := scaled.value.times (.ofRat (10 ^ power))
    exponent := scaled.exponent - power }

/-- Shifts as often as the stage applies, but no more than `count` times. -/
def pass (stage : Stage) : (count : Nat) → Scaled → Scaled
  | 0, scaled => scaled
  | count + 1, scaled =>
      if stage.applies scaled.value.head then
        pass stage count (scaled.shift stage.power)
      else
        scaled

/-- A positive double, scaled.  No stage applies more than twelve times. -/
def ofDouble (number : Binary64) : Scaled :=
  stages.foldl (fun scaled stage => scaled.pass stage 12)
    { value := .ofDouble number, exponent := 0 }

/-- The whole parts of head and tail together. -/
def whole (scaled : Scaled) : Nat :=
  let tail := scaled.value.tail.toRat
  (scaled.value.head.toRat.floor + tail.num.tdiv tail.den).toNat

end Scaled

/-- The decimal of at most fifteen digits for a positive double. -/
def decimal (number : Binary64) : Decimal :=
  let scaled := Scaled.ofDouble number
  let digits : Decimal :=
    { coefficient := scaled.whole, exponent := scaled.exponent }
  (digits.roundTo 15).dropTrailingZeros

/-- The engine writes reals with a point and fifteen digits at most, and beyond
them with an exponent of two digits. -/
def layout : Decimal.Layout :=
  { positional := some (-3, 15)
    wholeMark := ['.', '0']
    singleMark := ['.', '0']
    exponentWidth := 2 }

/-- The text of a number that is not NaN.  Zero has no sign. -/
def write (number : Binary64) : String :=
  let size := if number.isNegative then number.negate else number
  let text :=
    if size.isZero then ['0', '.', '0']
    else if size.isInfinite then ['I', 'n', 'f']
    else layout.write (decimal size)
  String.ofList
    (if number.isNegative && !number.isZero then '-' :: text else text)

end TypedSql.RealText
