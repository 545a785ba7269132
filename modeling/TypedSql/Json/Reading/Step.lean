import TypedSql.Json.Fault

/-!
# Reading steps

A reading step takes symbols off the front of a text.  It yields what it read
and the rest of the text, or fails.  A failure knows its distance from the end
of the text, which is the same in every text that ends so.
-/

namespace TypedSql.Json

/-- A fault and the number of bytes from its place to the end of the text. -/
structure Failure where
  fault : Fault
  remaining : Nat

/-- Size in bytes. -/
def byteCount (text : List Symbol) : Nat :=
  text.foldr (fun symbol bytes => symbol.size + bytes) 0

/-- The fault lies right in front of the rest. -/
def failHere {α : Type} (fault : Fault) (rest : List Symbol) :
    Except Failure α :=
  .error { fault := fault, remaining := byteCount rest }

/-- The fault lies in the first byte of the rest, or at the end of the text if
nothing is left. -/
def failAtNext {α : Type} (fault : Fault) (rest : List Symbol) :
    Except Failure α :=
  .error { fault := fault, remaining := byteCount rest - 1 }

/-- The fault with its place in the whole text. -/
def Failure.locate (failure : Failure) (text : List Symbol) : LocatedFault :=
  let bytes := byteCount text - failure.remaining
  { fault := failure.fault, place := Place.start.advance bytes text }

/-- The blanks that may stand between the parts of a document. -/
def isSpace (symbol : Symbol) : Bool :=
  symbol = .char ' ' || symbol = .char '\n' || symbol = .char '\r' ||
    symbol = .char '\t'

def skipSpace (text : List Symbol) : List Symbol :=
  text.dropWhile isSpace

/-- Reads the remaining characters of a word. -/
def readWord : List Char → List Symbol → Except Failure (List Symbol)
  | [], text => .ok text
  | _, [] => failHere .endInValue []
  | expected :: word, symbol :: rest =>
      if symbol = .char expected then readWord word rest
      else failAtNext .expectedWord (symbol :: rest)

/-- The digits in front of a text, and the rest. -/
def takeDigits : List Symbol → List Char × List Symbol
  | .char character :: rest =>
      if character.isDigit then
        let (digits, rest) := takeDigits rest
        (character :: digits, rest)
      else
        ([], .char character :: rest)
  | text => ([], text)

end TypedSql.Json
