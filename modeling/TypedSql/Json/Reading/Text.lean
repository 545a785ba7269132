import TypedSql.Json.Reading.Step

/-!
# Reading JSON strings

A string is read behind its opening quotation mark up to the closing one.  A
character beyond the basic plane may be escaped as a pair of surrogates.
-/

namespace TypedSql.Json

/-- Value of a hexadecimal digit. -/
def hexValue? (character : Char) : Option Nat :=
  if character.isDigit then some (character.toNat - '0'.toNat)
  else if 'a' ≤ character ∧ character ≤ 'f' then
    some (character.toNat - 'a'.toNat + 10)
  else if 'A' ≤ character ∧ character ≤ 'F' then
    some (character.toNat - 'A'.toNat + 10)
  else none

/-- Reads the four digits of an escaped code unit. -/
def readCodeUnit : List Symbol → Except Failure (Nat × List Symbol)
  | text@(.char first :: .char second :: .char third :: .char fourth :: rest) =>
      match hexValue? first, hexValue? second, hexValue? third,
        hexValue? fourth with
      | some first, some second, some third, some fourth =>
          .ok (((first * 16 + second) * 16 + third) * 16 + fourth, rest)
      | _, _, _, _ =>
          .error { fault := .invalidEscape, remaining := byteCount text - 4 }
  | text =>
      if byteCount text < 4 then failHere .endInString []
      else .error { fault := .invalidEscape, remaining := byteCount text - 4 }

/-- The low half of a surrogate pair must follow the high one. -/
def readLowSurrogate (high : Nat) : List Symbol →
    Except Failure (Char × List Symbol)
  | .char '\\' :: .char 'u' :: text => do
      let (low, rest) ← readCodeUnit text
      if low < 0xDC00 ∨ 0xDFFF < low then failHere .loneSurrogate rest
      else
        return (Char.ofNat
          ((high - 0xD800) * 0x400 + (low - 0xDC00) + 0x10000), rest)
  | [.char '\\'] => failHere .endInString []
  | .char '\\' :: text => failAtNext .unpairedSurrogate text
  | [] => failHere .endInString []
  | text => failAtNext .unpairedSurrogate text

/-- Reads an escaped code point behind the letter `u`. -/
def readCodePoint (text : List Symbol) :
    Except Failure (Char × List Symbol) := do
  let (unit, rest) ← readCodeUnit text
  if 0xDC00 ≤ unit ∧ unit ≤ 0xDFFF then failHere .loneSurrogate rest
  else if 0xD800 ≤ unit ∧ unit ≤ 0xDBFF then readLowSurrogate unit rest
  else return (Char.ofNat unit, rest)

/-- Reads an escape behind its backslash. -/
def readEscape : List Symbol → Except Failure (Char × List Symbol)
  | [] => failHere .endInString []
  | .char '"' :: rest => .ok ('"', rest)
  | .char '\\' :: rest => .ok ('\\', rest)
  | .char '/' :: rest => .ok ('/', rest)
  | .char 'b' :: rest => .ok ('\x08', rest)
  | .char 'f' :: rest => .ok ('\x0c', rest)
  | .char 'n' :: rest => .ok ('\n', rest)
  | .char 'r' :: rest => .ok ('\r', rest)
  | .char 't' :: rest => .ok ('\t', rest)
  | .char 'u' :: rest => readCodePoint rest
  | text => failAtNext .invalidEscape text

/-- Reads up to the closing quotation mark what the string holds: characters,
escaped or not, and stray bytes.  One step of fuel is enough for each
symbol. -/
def readContents : (fuel : Nat) → List Symbol →
    Except Failure (List Symbol × List Symbol)
  | 0, text => failHere .endInString text
  | _, [] => failHere .endInString []
  | _, .char '"' :: rest => .ok ([], rest)
  | fuel + 1, .char '\\' :: rest => do
      let (character, rest) ← readEscape rest
      let (contents, rest) ← readContents fuel rest
      return (.char character :: contents, rest)
  | fuel + 1, symbol :: rest =>
      if symbol.isControl then failAtNext .controlCharacter (symbol :: rest)
      else do
        let (contents, rest) ← readContents fuel rest
        return (symbol :: contents, rest)

/-- The characters of a string that holds no stray byte.  A stray byte is found
only when the string is complete, so every other fault of the string comes
first.  Its distance from the end of the string is that of the contents, in
which an escape is as long as what it stands for. -/
def charactersOf (rest : List Symbol) : List Symbol →
    Except Failure (List Char)
  | [] => .ok []
  | .char character :: contents => do
      let characters ← charactersOf rest contents
      return character :: characters
  | contents@(.stray _ :: _) =>
      failHere .invalidCodePoint (contents ++ rest)

/-- Reads a string behind its opening quotation mark. -/
def readString (text : List Symbol) :
    Except Failure (String × List Symbol) := do
  let (contents, rest) ← readContents (text.length + 1) text
  let characters ← charactersOf rest contents
  return (String.ofList characters, rest)

end TypedSql.Json
