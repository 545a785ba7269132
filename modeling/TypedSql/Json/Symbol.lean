/-!
# Symbols of a JSON text

A text to be read is a sequence of characters, among which bytes may stand that
are not part of well-formed UTF-8.  Places in a text are counted in bytes.
-/

namespace TypedSql.Json

/-- A character of the text, or a byte that belongs to none. -/
inductive Symbol where
  | char (character : Char)
  | stray (byte : UInt8)
deriving DecidableEq

namespace Symbol

/-- Number of bytes in the encoded text. -/
def size : Symbol → Nat
  | .char character => character.utf8Size
  | .stray _ => 1

def isControl : Symbol → Bool
  | .char character => character.toNat < 0x20
  | .stray _ => false

def ofText (text : String) : List Symbol :=
  text.toList.map .char

/-- The symbols of bytes that may be ill-formed, from an index on, taking a
character wherever one is well-formed. -/
def ofBytesFrom (bytes : ByteArray) : (fuel index : Nat) → List Symbol
  | 0, _ => []
  | fuel + 1, index =>
      match bytes.utf8DecodeChar? index with
      | some character =>
          .char character ::
            ofBytesFrom bytes fuel (index + character.utf8Size)
      | none =>
          match bytes[index]? with
          | some byte => .stray byte :: ofBytesFrom bytes fuel (index + 1)
          | none => []

/-- The symbols of any bytes; well-formed ones are those of their text. -/
def ofBytes (bytes : ByteArray) : List Symbol :=
  match String.fromUTF8? bytes with
  | some text => ofText text
  | none => ofBytesFrom bytes bytes.size 0

end Symbol

/-- A place in a text: the line, counted from one, and the bytes of that line
in front of the place. -/
structure Place where
  line : Nat
  column : Nat

namespace Place

/-- The place a number of bytes behind another, through the given symbols.  A
place may lie within a character. -/
def advance (place : Place) : (bytes : Nat) → List Symbol → Place
  | _, [] => place
  | bytes, symbol :: rest =>
      if bytes = 0 then place
      else if symbol = .char '\n' then
        advance { line := place.line + 1, column := 0 } (bytes - 1) rest
      else
        advance { place with column := place.column + min bytes symbol.size }
          (bytes - symbol.size) rest

def start : Place := { line := 1, column := 0 }

end Place

end TypedSql.Json
