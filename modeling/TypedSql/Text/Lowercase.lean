import TypedSql.Text.Lowercase.Table

/-!
# Lower-casing

The full Unicode lower-case mapping of a text, without regard to a language.
Two letters are special: the dotted capital I becomes two characters, and a
capital sigma becomes a final sigma at the end of a word.
-/

namespace TypedSql.Lowercase

/-- The run that a character beyond ASCII belongs to maps it. -/
def Run.image? (run : Run) (code : Nat) : Option Nat :=
  if run.first ≤ code ∧ code ≤ run.last ∧
      (code - run.first) % run.step = 0 then
    some (run.target + (code - run.first))
  else
    none

/-- The one-to-one mapping of a single character. -/
def letter (character : Char) : Char :=
  if character.toNat < 0x80 then character.toLower
  else
    match runs.findSome? (·.image? character.toNat) with
    | some code => Char.ofNat code
    | none => character

def inRanges (ranges : List (Nat × Nat)) (character : Char) : Bool :=
  ranges.any fun (first, last) =>
    first ≤ character.toNat && character.toNat ≤ last

/-- Cased characters, those that are ignored between letters left out. -/
def isCased (character : Char) : Bool :=
  character.isAlpha || inRanges casedRanges character

/-- Characters that are ignored between the letters of a word. -/
def isIgnorable (character : Char) : Bool :=
  ['\x27', '.', ':', '^', '\x60'].contains character ||
    inRanges ignorableRanges character

/-- Whether a cased letter comes first, ignorable characters apart. -/
def startsCased (text : List Char) : Bool :=
  match text.dropWhile isIgnorable with
  | character :: _ => isCased character
  | [] => false

/-- A character in its place: `before` is the text in front of it, last
character first, and `after` the text behind it. -/
def inContext (before : List Char) (character : Char) (after : List Char) :
    List Char :=
  if character = 'Σ' then
    if startsCased before && !startsCased after then ['ς'] else ['σ']
  else if character = 'İ' then ['i', '\u0307']
  else [letter character]

/-- Lower-cases the rest of a text behind `before`. -/
def rest (before : List Char) : List Char → List Char
  | [] => []
  | character :: after =>
      inContext before character after ++ rest (character :: before) after

end TypedSql.Lowercase

namespace TypedSql

/-- The text in lower case. -/
def lowercase (text : String) : String :=
  String.ofList (Lowercase.rest [] text.toList)

end TypedSql
