import TypedSql.Decimal.Shortest

/-!
# Layouts of decimals

A layout says how the digits of a decimal are written: for which positions of
the point they are written out in full, and how an exponent looks otherwise.
The notations in use here are values of `Decimal.Layout`.
-/

namespace TypedSql.Decimal

/-- How the digits of a positive decimal are written. -/
structure Layout where
  /-- Least and greatest position of the point that is written without an
  exponent; all of them when absent. -/
  positional : Option (Int × Int)
  /-- Written after a whole number. -/
  wholeMark : List Char
  /-- Written after a single digit that an exponent follows. -/
  singleMark : List Char
  /-- Fewest digits of an exponent. -/
  exponentWidth : Nat

namespace Layout

/-- The digits with the point at `point`, padded with zeros up to it. -/
def writePositional (layout : Layout) (digits : List Char) (point : Int) :
    List Char :=
  if point ≤ 0 then
    '0' :: '.' :: List.replicate (-point).toNat '0' ++ digits
  else if digits.length ≤ point then
    digits ++ List.replicate (point.toNat - digits.length) '0' ++
      layout.wholeMark
  else
    digits.take point.toNat ++ '.' :: digits.drop point.toNat

/-- One digit before the point and a signed exponent. -/
def writeScientific (layout : Layout) (digits : List Char) (point : Int) :
    List Char :=
  let fraction :=
    match digits.drop 1 with
    | [] => layout.singleMark
    | rest => '.' :: rest
  let exponent := Nat.toDigits 10 (point - 1).natAbs
  let padding := List.replicate (layout.exponentWidth - exponent.length) '0'
  digits.take 1 ++ fraction ++
    'e' :: (if point - 1 < 0 then '-' else '+') :: padding ++ exponent

/-- A positive decimal in this layout. -/
def write (layout : Layout) (decimal : Decimal) : List Char :=
  let fits :=
    match layout.positional with
    | none => true
    | some (least, greatest) =>
        least ≤ decimal.point && decimal.point ≤ greatest
  if fits then layout.writePositional decimal.digits decimal.point
  else layout.writeScientific decimal.digits decimal.point

end Layout

end TypedSql.Decimal
