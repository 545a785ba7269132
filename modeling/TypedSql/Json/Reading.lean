import TypedSql.Json.Document
import TypedSql.Json.Reading.Number
import TypedSql.Json.Reading.Text

/-!
# Reading JSON documents

A text is a tree of limited depth between blanks.  The reader descends into
arrays and objects, and makes a document of the tree it has read.
-/

namespace TypedSql.Json

/-- Arrays and objects may be nested this deeply. -/
def depthLimit : Nat := 127

/-- Reads the colon behind a key. -/
def readColon (text : List Symbol) : Except Failure (List Symbol) :=
  match skipSpace text with
  | .char ':' :: rest => .ok rest
  | [] => failHere .endInObject []
  | text => failAtNext .expectedColon text

mutual

/-- Reads a value in front of the rest of a text.  `depth` more levels of
nesting are allowed. -/
def readValue : (fuel depth : Nat) → List Symbol →
    Except Failure (Tree × List Symbol)
  | 0, _, text => failHere .endInValue text
  | fuel + 1, depth, text =>
      match skipSpace text with
      | [] => failHere .endInValue []
      | .char 'n' :: rest => do
          let rest ← readWord ['u', 'l', 'l'] rest
          return (.null, rest)
      | .char 't' :: rest => do
          let rest ← readWord ['r', 'u', 'e'] rest
          return (.boolean true, rest)
      | .char 'f' :: rest => do
          let rest ← readWord ['a', 'l', 's', 'e'] rest
          return (.boolean false, rest)
      | .char '-' :: rest => do
          let (number, rest) ← readNumber true rest
          return (.number number, rest)
      | .char '"' :: rest => do
          let (string, rest) ← readString rest
          return (.string string, rest)
      | text@(.char '[' :: rest) =>
          match depth with
          | 0 => failAtNext .tooDeep text
          | depth + 1 => do
              let (items, rest) ← readFirstItem fuel depth rest
              return (.array items, rest)
      | text@(.char '\x7b' :: rest) =>
          match depth with
          | 0 => failAtNext .tooDeep text
          | depth + 1 => do
              let (members, rest) ← readFirstMember fuel depth rest
              return (.object members, rest)
      | text@(.char character :: _) =>
          if character.isDigit then do
            let (number, rest) ← readNumber false text
            return (.number number, rest)
          else
            failAtNext .expectedValue text
      | text => failAtNext .expectedValue text

/-- Reads the items of an array behind its opening bracket. -/
def readFirstItem : (fuel depth : Nat) → List Symbol →
    Except Failure (List Tree × List Symbol)
  | 0, _, text => failHere .endInList text
  | fuel + 1, depth, text =>
      match skipSpace text with
      | [] => failHere .endInList []
      | .char ']' :: rest => .ok ([], rest)
      | text => do
          let (item, rest) ← readValue fuel depth text
          let (items, rest) ← readMoreItems fuel depth rest
          return (item :: items, rest)

/-- Reads the items of an array behind one of them. -/
def readMoreItems : (fuel depth : Nat) → List Symbol →
    Except Failure (List Tree × List Symbol)
  | 0, _, text => failHere .endInList text
  | fuel + 1, depth, text =>
      match skipSpace text with
      | [] => failHere .endInList []
      | .char ']' :: rest => .ok ([], rest)
      | .char ',' :: rest =>
          match skipSpace rest with
          | [] => failHere .endInValue []
          | text@(.char ']' :: _) => failAtNext .trailingComma text
          | text => do
              let (item, rest) ← readValue fuel depth text
              let (items, rest) ← readMoreItems fuel depth rest
              return (item :: items, rest)
      | text => failAtNext .expectedListSeparator text

/-- Reads the members of an object behind its opening brace. -/
def readFirstMember :
    (fuel depth : Nat) → List Symbol →
      Except Failure (List (String × Tree) × List Symbol)
  | 0, _, text => failHere .endInObject text
  | fuel + 1, depth, text =>
      match skipSpace text with
      | [] => failHere .endInObject []
      | .char '\x7d' :: rest => .ok ([], rest)
      | .char '"' :: rest => readMember fuel depth rest
      | text => failAtNext .keyNotString text

/-- Reads a member behind the quotation mark of its key, and all further
ones. -/
def readMember :
    (fuel depth : Nat) → List Symbol →
      Except Failure (List (String × Tree) × List Symbol)
  | 0, _, text => failHere .endInObject text
  | fuel + 1, depth, text => do
      let (key, rest) ← readString text
      let rest ← readColon rest
      let (value, rest) ← readValue fuel depth rest
      let (members, rest) ← readMoreMembers fuel depth rest
      return ((key, value) :: members, rest)

/-- Reads the members of an object behind one of them. -/
def readMoreMembers :
    (fuel depth : Nat) → List Symbol →
      Except Failure (List (String × Tree) × List Symbol)
  | 0, _, text => failHere .endInObject text
  | fuel + 1, depth, text =>
      match skipSpace text with
      | [] => failHere .endInObject []
      | .char '\x7d' :: rest => .ok ([], rest)
      | .char ',' :: rest =>
          match skipSpace rest with
          | [] => failHere .endInValue []
          | .char '"' :: rest => readMember fuel depth rest
          | text@(.char '\x7d' :: _) => failAtNext .trailingComma text
          | text => failAtNext .keyNotString text
      | text => failAtNext .expectedObjectSeparator text

end

/-- Reads a whole text.  Each symbol takes at most two calls. -/
def readTree (text : List Symbol) : Except Failure Tree := do
  let (tree, rest) ← readValue (2 * text.length + 2) depthLimit text
  match skipSpace rest with
  | [] => return tree
  | rest => failAtNext .trailingCharacters rest

namespace Document

/-- Reads a whole text as a document. -/
def read (text : List Symbol) : Except LocatedFault Document :=
  ((readTree text).map ofTree).mapError (·.locate text)

/-- Reads a document from text. -/
def ofText (text : String) : Except LocatedFault Document :=
  read (Symbol.ofText text)

/-- Reads a document from encoded text. -/
def ofBytes (bytes : ByteArray) : Except LocatedFault Document :=
  read (Symbol.ofBytes bytes)

end Document

end TypedSql.Json
