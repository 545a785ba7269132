/-!
# Decimal numerals

Fixed-width and unlimited decimal numerals, and their scanners.
-/

namespace TypedSql.Numeral

/-- Decimal digits of a natural number, with zeros in front up to `width`. -/
def padded (width value : Nat) : List Char :=
  let digits := Nat.toDigits 10 value
  List.replicate (width - digits.length) '0' ++ digits

/-- The number that a string of decimal digits denotes. -/
def value (digits : List Char) : Nat :=
  Nat.ofDigitChars 10 digits 0

/-- Splits off the digits in front, at most `limit` of them. -/
def takeDigits : (limit : Nat) → List Char → List Char × List Char
  | 0, text => ([], text)
  | _, [] => ([], [])
  | limit + 1, character :: rest =>
      if character.isDigit then
        let (digits, rest) := takeDigits limit rest
        (character :: digits, rest)
      else
        ([], character :: rest)

/-- Scans a number of at least one and at most `limit` digits. -/
def scan? (limit : Nat) (text : List Char) : Option (Nat × List Char) :=
  match takeDigits limit text with
  | ([], _) => none
  | (digits, rest) => some (value digits, rest)

/-- Scans a number of exactly `width` digits. -/
def scanExactly? (width : Nat) (text : List Char) : Option (Nat × List Char) :=
  let (digits, rest) := takeDigits width text
  if digits.length = width then some (value digits, rest) else none

end TypedSql.Numeral
