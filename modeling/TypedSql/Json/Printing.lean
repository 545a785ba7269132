import TypedSql.Decimal.Layout
import TypedSql.Json.Document

/-!
# Written JSON documents

A document is written as its tree, without blanks.  In strings, only the
quotation mark, the backslash and the control characters are escaped.
-/

namespace TypedSql.Json

/-- A rounded number is written with its point for whole and small numbers up
to sixteen digits before the point and five places after it, and otherwise with
a signed exponent.  Of two shortest decimals equally near, the even one is
taken. -/
def numberLayout : Decimal.Layout :=
  { positional := some (-4, 16)
    wholeMark := ['.', '0']
    singleMark := []
    exponentWidth := 1 }

def writeReal (value : Binary64) : List Char :=
  let size :=
    if value.isZero then ['0', '.', '0']
    else numberLayout.write (value.shortestDecimal .toEven)
  if value.isNegative then '-' :: size else size

def writeInteger (value : Int) : List Char :=
  if value < 0 then '-' :: Nat.toDigits 10 value.natAbs
  else Nat.toDigits 10 value.toNat

def Number.write : Number → List Char
  | .integer value _ => writeInteger value
  | .real value _ => writeReal value

/-- A character as it stands in a string. -/
def escape (character : Char) : List Char :=
  if character = '"' then ['\\', '"']
  else if character = '\\' then ['\\', '\\']
  else if character = '\x08' then ['\\', 'b']
  else if character = '\x0c' then ['\\', 'f']
  else if character = '\n' then ['\\', 'n']
  else if character = '\r' then ['\\', 'r']
  else if character = '\t' then ['\\', 't']
  else if character.toNat < 0x20 then
    ['\\', 'u', '0', '0', Nat.digitChar (character.toNat / 16),
      Nat.digitChar (character.toNat % 16)]
  else [character]

def writeString (text : String) : List Char :=
  '"' :: text.toList.flatMap escape ++ ['"']

namespace Tree

mutual

def write : Tree → List Char
  | .null => ['n', 'u', 'l', 'l']
  | .boolean true => ['t', 'r', 'u', 'e']
  | .boolean false => ['f', 'a', 'l', 's', 'e']
  | .number value => value.write
  | .string value => writeString value
  | .array [] => ['[', ']']
  | .array (item :: items) => '[' :: write item ++ writeItems items
  | .object [] => ['\x7b', '\x7d']
  | .object ((key, value) :: members) =>
      '\x7b' :: writeString key ++ ':' :: write value ++ writeMembers members

/-- The items behind the first, with the closing bracket. -/
def writeItems : List Tree → List Char
  | [] => [']']
  | item :: items => ',' :: write item ++ writeItems items

/-- The members behind the first, with the closing brace. -/
def writeMembers : List (String × Tree) → List Char
  | [] => ['\x7d']
  | (key, value) :: members =>
      ',' :: writeString key ++ ':' :: write value ++ writeMembers members

end

end Tree

def Document.text (document : Document) : String :=
  String.ofList document.tree.write

end TypedSql.Json
