import TypedSql.Binary64.Arithmetic
import TypedSql.Json.Reading.Step
import TypedSql.Json.Tree

/-!
# Reading JSON numbers

The leading digits of a number that fit into 64 bits are its significand, and
the digits left over in front of the point only raise its exponent.  A number
with a point, an exponent or digits left over is the significand, rounded to a
double, times or divided by a rounded power of ten; it need not be the double
nearest to the number written.
-/

namespace TypedSql.Json

def digitValue (digit : Char) : Nat :=
  digit.toNat - '0'.toNat

/-- Appends digits to a significand while it fits into 64 bits, and counts
the digits left over. -/
def extendSignificand (significand : Nat) : List Char → Nat × Nat
  | [] => (significand, 0)
  | digit :: digits =>
      let next := 10 * significand + digitValue digit
      if next < UInt64.size then extendSignificand next digits
      else (significand, digits.length + 1)

/-- Divides by `10 ^ 308` until the exponent is in the table of powers, or the
number has become zero.  The exponent counts the powers of ten to divide by. -/
def scaleDown (value : Binary64) : (fuel exponent : Nat) → Binary64
  | 0, _ => value
  | fuel + 1, exponent =>
      if exponent ≤ 308 then value / Binary64.powerOfTen exponent
      else if value.isZero then value
      else
        scaleDown (value / Binary64.powerOfTen 308) fuel (exponent - 308)

/-- The rounded product of a significand and a power of ten. -/
def scale (significand : Nat) (exponent : Int) : Binary64 :=
  let value := Binary64.ofNat significand
  if exponent < 0 then scaleDown value exponent.natAbs exponent.natAbs
  else if exponent ≤ 308 then
    value * Binary64.powerOfTen exponent.toNat
  else if value.isZero then value
  else { bits := Binary64.infinityMagnitude.toUInt64 }

/-- The number with this sign, significand and exponent, in front of `rest`. -/
def scaledNumber (negative : Bool) (significand : Nat) (exponent : Int)
    (rest : List Symbol) : Except Failure (Number × List Symbol) :=
  let size := scale significand exponent
  let value := if negative then size.negate else size
  if finite : value.isFinite then .ok (.real value finite, rest)
  else failHere .numberOutOfRange rest

/-- An integer without digits left over.  One below `-2 ^ 63` and the negative
zero are rounded numbers. -/
def wholeNumber (negative : Bool) (significand : Nat) (rest : List Symbol) :
    Except Failure (Number × List Symbol) :=
  if negative && significand = 0 then scaledNumber true 0 0 rest
  else
    let value : Int := if negative then -significand else significand
    if inRange : IntegerRange value then .ok (.integer value inRange, rest)
    else scaledNumber negative significand 0 rest

/-- Adds the digits of an exponent up to `2 ^ 31 - 1`.  The digits behind one
that would lead beyond are returned instead. -/
def extendExponent (exponent : Nat) : List Char → Except (List Char) Nat
  | [] => .ok exponent
  | digit :: digits =>
      let next := 10 * exponent + digitValue digit
      if next < 0x80000000 then extendExponent next digits else .error digits

/-- Reads the digits of an exponent behind its sign. -/
def readExponentDigits (negative : Bool) (significand : Nat) (start : Int)
    (down : Bool) (text : List Symbol) :
    Except Failure (Number × List Symbol) :=
  match takeDigits text, text with
  | ([], _), [] => failHere .endInValue []
  | ([], _), _ => failAtNext .invalidNumber text
  | (digits, rest), _ =>
      match extendExponent 0 digits with
      | .ok size =>
          scaledNumber negative significand
            (if down then start - size else start + size) rest
      | .error digitsLeft =>
          if significand = 0 ∨ down then scaledNumber negative 0 0 rest
          else failHere .numberOutOfRange (digitsLeft.map .char ++ rest)

/-- Reads an exponent behind its letter. -/
def readExponent (negative : Bool) (significand : Nat) (start : Int) :
    List Symbol → Except Failure (Number × List Symbol)
  | .char '+' :: rest =>
      readExponentDigits negative significand start false rest
  | .char '-' :: rest =>
      readExponentDigits negative significand start true rest
  | text => readExponentDigits negative significand start false text

/-- Reads an exponent if the text begins with one. -/
def readScaled (negative : Bool) (significand : Nat) (exponent : Int) :
    List Symbol → Except Failure (Number × List Symbol)
  | .char 'e' :: rest => readExponent negative significand exponent rest
  | .char 'E' :: rest => readExponent negative significand exponent rest
  | text => scaledNumber negative significand exponent text

/-- Reads a fraction behind its point, and an exponent. -/
def readFraction (negative : Bool) (significand leftOver : Nat)
    (text : List Symbol) : Except Failure (Number × List Symbol) :=
  match takeDigits text, text with
  | ([], _), [] => failHere .endInValue []
  | ([], _), _ => failAtNext .invalidNumber text
  | (digits, rest), _ =>
      let (significand, dropped) := extendSignificand significand digits
      readScaled negative significand
        ((leftOver : Int) - (digits.length - dropped : Nat)) rest

/-- Reads what follows the digits in front of the point. -/
def readRemainder (negative : Bool) (significand leftOver : Nat) :
    List Symbol → Except Failure (Number × List Symbol)
  | .char '.' :: rest => readFraction negative significand leftOver rest
  | text@(.char 'e' :: _) => readScaled negative significand leftOver text
  | text@(.char 'E' :: _) => readScaled negative significand leftOver text
  | text =>
      if leftOver = 0 then wholeNumber negative significand text
      else scaledNumber negative significand leftOver text

/-- Reads a number behind its sign.  A leading zero stands alone in front of
the point. -/
def readNumber (negative : Bool) (text : List Symbol) :
    Except Failure (Number × List Symbol) :=
  match takeDigits text, text with
  | ([], _), [] => failHere .endInValue []
  | ([], _), _ => failAtNext .invalidNumber text
  | ('0' :: _ :: _, _), _ => failAtNext .invalidNumber (text.drop 1)
  | (digits, rest), _ =>
      let (significand, leftOver) := extendSignificand 0 digits
      readRemainder negative significand leftOver rest

end TypedSql.Json
