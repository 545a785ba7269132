import TypedSql.Calendar.Instant
import TypedSql.Text.Blank
import TypedSql.Text.Numeral

/-!
# Reading dates and instants

Two grammars are read.  The internet format of RFC 3339 has fields of fixed
width and an offset from UTC.  The lenient format has no offset, allows blanks
in front of every number and shorter numbers, and years of any length behind a
sign.
-/

namespace TypedSql

open Numeral (scan? scanExactly? takeDigits)

/-- The rest of a text behind a given character. -/
def skip? (expected : Char) : List Char → Option (List Char)
  | character :: rest => if character = expected then some rest else none
  | [] => none

namespace TimeOfDay

/-- Nanoseconds that the digits of a fraction denote: nine digits count, and
further ones are ignored. -/
def fractionValue (digits : List Char) : Nat :=
  Numeral.value ((digits.take 9).rightpad 9 '0')

/-- Scans the fraction of a second with its point, if there is a point. -/
def scanFraction? : List Char → Option (Nat × List Char)
  | '.' :: text =>
      match takeDigits text.length text with
      | ([], _) => none
      | (digits, rest) => some (fractionValue digits, rest)
  | text => some (0, text)

/-- Scans a time of day with colons between its fields and a fraction, given the
scanner of a grammar's fields. -/
def scan? (field? : List Char → Option (Nat × List Char)) (text : List Char) :
    Option (TimeOfDay × List Char) := do
  let (hour, text) ← field? text
  let text ← skip? ':' text
  let (minute, text) ← field? text
  let text ← skip? ':' text
  let (second, text) ← field? text
  let (fraction, text) ← scanFraction? text
  let time ← ofClock? hour minute second fraction
  return (time, text)

end TimeOfDay

/-- Scans a date with hyphens between its fields, given the scanners of a
grammar's years and other fields. -/
def Date.scan? (year? : List Char → Option (Int × List Char))
    (field? : List Char → Option (Nat × List Char)) (text : List Char) :
    Option (Date × List Char) := do
  let (year, text) ← year? text
  let text ← skip? '-' text
  let (month, text) ← field? text
  let text ← skip? '-' text
  let (day, text) ← field? text
  let date ← ofParts? year month day
  return (date, text)

namespace Lenient

/-- Scans a number of one or two digits behind any blanks. -/
def scanField? (text : List Char) : Option (Nat × List Char) :=
  scan? 2 (skipBlanks text)

/-- Scans a year behind any blanks: up to four digits, or any number of them
behind a sign. -/
def scanYear? (text : List Char) : Option (Int × List Char) :=
  match skipBlanks text with
  | '-' :: rest =>
      (scan? rest.length rest).map fun (year, rest) => (-(year : Int), rest)
  | '+' :: rest =>
      (scan? rest.length rest).map fun (year, rest) => ((year : Int), rest)
  | rest => (scan? 4 rest).map fun (year, rest) => ((year : Int), rest)

def scanDate? : List Char → Option (Date × List Char) :=
  Date.scan? scanYear? scanField?

/-- Reads a date and a time of day, which may be blanks apart, as an instant of
UTC. -/
def readInstant? (text : List Char) : Option Instant := do
  let (date, text) ← scanDate? text
  let (time, text) ← TimeOfDay.scan? scanField? (skipBlanks text)
  if text.isEmpty then return { date := date, time := time } else none

end Lenient

namespace Internet

/-- Scans a year of four digits. -/
def scanYear? (text : List Char) : Option (Int × List Char) :=
  (scanExactly? 4 text).map fun (year, rest) => ((year : Int), rest)

def scanDate? : List Char → Option (Date × List Char) :=
  Date.scan? scanYear? (scanExactly? 2)

/-- The separator of date and time. -/
def skipSeparator? : List Char → Option (List Char)
  | character :: rest =>
      if character = 'T' ∨ character = 't' ∨ character = ' ' then some rest
      else none
  | [] => none

/-- Scans the hours and minutes of an offset, in minutes less than a day. -/
def scanOffsetSize? (text : List Char) : Option (Nat × List Char) := do
  let (hours, text) ← scanExactly? 2 text
  let text ← skip? ':' text
  let (minutes, text) ← scanExactly? 2 text
  if hours ≤ 23 ∧ minutes ≤ 59 then return (hours * 60 + minutes, text)
  else none

/-- Scans an offset from UTC in minutes: a letter Z, or a sign and a size.  The
minus sign may be the typographic one. -/
def scanOffset? : List Char → Option (Int × List Char)
  | 'Z' :: text => some (0, text)
  | 'z' :: text => some (0, text)
  | '+' :: text =>
      (scanOffsetSize? text).map fun (size, rest) => ((size : Int), rest)
  | '-' :: text =>
      (scanOffsetSize? text).map fun (size, rest) => (-(size : Int), rest)
  | '\u2212' :: text =>
      (scanOffsetSize? text).map fun (size, rest) => (-(size : Int), rest)
  | _ => none

/-- Reads an instant in the format of RFC 3339. -/
def readInstant? (text : List Char) : Option Instant := do
  let (date, text) ← scanDate? text
  let text ← skipSeparator? text
  let (time, text) ← TimeOfDay.scan? (scanExactly? 2) text
  let (offset, text) ← scanOffset? text
  if text.isEmpty then Instant.ofLocal? date time offset else none

end Internet

/-- Reads a date in the lenient format. -/
def Date.read? (text : String) : Option Date := do
  let (date, rest) ← Lenient.scanDate? text.toList
  if rest.isEmpty then return date else none

/-- Reads an instant in the internet format, or else in the lenient one. -/
def Instant.read? (text : String) : Option Instant :=
  match Internet.readInstant? text.toList with
  | some instant => some instant
  | none => Lenient.readInstant? text.toList

end TypedSql
