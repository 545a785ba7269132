import TypedSql.Schema.Definition

/-!
# Reading table definitions

The reader accepts table definitions in the form in which they are written.
Names are delimited by their quotes, so punctuation and keywords inside them
do not matter.
-/

namespace TypedSql

namespace Identifier

/-- Reads a name up to its closing quote. -/
def readQuoted? : List Char → Option (List Char × List Char)
  | [] => none
  | '"' :: '"' :: rest => do
      let (name, rest) ← readQuoted? rest
      return ('"' :: name, rest)
  | '"' :: rest => some ([], rest)
  | character :: rest => do
      let (name, rest) ← readQuoted? rest
      return (character :: name, rest)

/-- Reads a quoted name. -/
def read? : List Char → Option (String × List Char)
  | '"' :: rest => do
      let (name, rest) ← readQuoted? rest
      return (String.ofList name, rest)
  | _ => none

end Identifier

/-- The rest of a text behind expected characters. -/
def skipText? : (expected text : List Char) → Option (List Char)
  | [], text => some text
  | _, [] => none
  | expected :: others, character :: rest =>
      if character = expected then skipText? others rest else none

/-- The rest of a text behind an expected piece. -/
def skipPiece? (piece : String) (text : List Char) : Option (List Char) :=
  skipText? piece.toList text

def Affinity.read? (text : List Char) : Option (Affinity × List Char) :=
  [Affinity.integer, .text, .real, .blob].findSome? fun affinity =>
    (skipPiece? affinity.keyword text).map fun rest => (affinity, rest)

def ColumnDefinition.read? (text : List Char) :
    Option (ColumnDefinition × List Char) := do
  let (name, text) ← Identifier.read? text
  let text ← skipPiece? " " text
  let (affinity, text) ← Affinity.read? text
  match skipPiece? " PRIMARY KEY" text with
  | some text =>
      return ({ name := name, affinity := affinity, isKey := true }, text)
  | none =>
      return ({ name := name, affinity := affinity, isKey := false }, text)

def ForeignKey.read? (text : List Char) :
    Option (ForeignKey × List Char) := do
  let text ← skipPiece? "FOREIGN KEY (" text
  let (field, text) ← Identifier.read? text
  let text ← skipPiece? ") REFERENCES " text
  let (table, text) ← Identifier.read? text
  let text ← skipPiece? " (" text
  let (column, text) ← Identifier.read? text
  let text ← skipPiece? ")" text
  return ({ field := field, table := table, column := column }, text)

namespace TableDefinition

/-- A column or a foreign key between the parentheses. -/
inductive Part where
  | column (column : ColumnDefinition)
  | foreignKey (key : ForeignKey)

def readPart? (text : List Char) : Option (Part × List Char) :=
  match ColumnDefinition.read? text with
  | some (column, rest) => some (.column column, rest)
  | none => (ForeignKey.read? text).map fun (key, rest) =>
      (.foreignKey key, rest)

/-- Adds a part to a definition. -/
def addPart (table : TableDefinition) : Part → TableDefinition
  | .column column => { table with columns := table.columns ++ [column] }
  | .foreignKey key =>
      { table with foreignKeys := table.foreignKeys ++ [key] }

/-- Reads the parts behind one of them, up to the end of the text. -/
def readParts? (table : TableDefinition) :
    (fuel : Nat) → List Char → Option TableDefinition
  | 0, _ => none
  | fuel + 1, text => do
      if text = [' ', ')'] then return table
      let text ← skipPiece? ", " text
      let (part, text) ← readPart? text
      readParts? (table.addPart part) fuel text

/-- Reads a statement that creates a table. -/
def read? (sql : String) : Option TableDefinition := do
  let text ← skipPiece? "CREATE TABLE " sql.toList
  let (name, text) ← Identifier.read? text
  let text ← skipPiece? " ( " text
  let table : TableDefinition :=
    { name := name, columns := [], foreignKeys := [] }
  if text = [' ', ')'] then return table
  let (part, text) ← readPart? text
  readParts? (table.addPart part) text.length text

end TableDefinition

end TypedSql
