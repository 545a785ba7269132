import TypedSql.Json.Symbol

/-!
# Faults of a JSON text

What can be wrong with a text, and the message that says so.
-/

namespace TypedSql.Json

inductive Fault where
  | endInValue
  | endInString
  | endInList
  | endInObject
  | expectedWord
  | expectedValue
  | expectedColon
  | expectedListSeparator
  | expectedObjectSeparator
  | trailingComma
  | keyNotString
  | trailingCharacters
  | controlCharacter
  | invalidEscape
  | loneSurrogate
  | unpairedSurrogate
  | invalidNumber
  | numberOutOfRange
  | invalidCodePoint
  | tooDeep
deriving DecidableEq

def Fault.message : Fault → String
  | .endInValue => "EOF while parsing a value"
  | .endInString => "EOF while parsing a string"
  | .endInList => "EOF while parsing a list"
  | .endInObject => "EOF while parsing an object"
  | .expectedWord => "expected ident"
  | .expectedValue => "expected value"
  | .expectedColon => "expected \x60:\x60"
  | .expectedListSeparator => "expected \x60,\x60 or \x60]\x60"
  | .expectedObjectSeparator => "expected \x60,\x60 or \x60\x7d\x60"
  | .trailingComma => "trailing comma"
  | .keyNotString => "key must be a string"
  | .trailingCharacters => "trailing characters"
  | .controlCharacter =>
      "control character (\\u0000-\\u001F) found while parsing a string"
  | .invalidEscape => "invalid escape"
  | .loneSurrogate => "lone leading surrogate in hex escape"
  | .unpairedSurrogate => "unexpected end of hex escape"
  | .invalidNumber => "invalid number"
  | .numberOutOfRange => "number out of range"
  | .invalidCodePoint => "invalid unicode code point"
  | .tooDeep => "recursion limit exceeded"

/-- A fault and the place of the last byte that was looked at. -/
structure LocatedFault where
  fault : Fault
  place : Place

def LocatedFault.message (located : LocatedFault) : String :=
  located.fault.message ++ " at line " ++ toString located.place.line ++
    " column " ++ toString located.place.column

end TypedSql.Json
