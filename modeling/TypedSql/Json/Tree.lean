import TypedSql.Binary64

/-!
# JSON trees

A tree is what a JSON text says apart from its blanks and its spellings.  The
members of an object are listed as they are written, so that keys may repeat.
Integers from `-2 ^ 63` up to `2 ^ 64 - 1` are exact, all other numbers are
finite doubles.
-/

namespace TypedSql.Json

/-- Integers that are kept exactly. -/
def IntegerRange (value : Int) : Prop :=
  -0x8000000000000000 ≤ value ∧ value < 0x10000000000000000

instance (value : Int) : Decidable (IntegerRange value) :=
  inferInstanceAs (Decidable (_ ∧ _))

inductive Number where
  | integer (value : Int) (inRange : IntegerRange value)
  | real (value : Binary64) (finite : value.isFinite)
deriving DecidableEq

/-- Numeric equality of two exact or two rounded numbers.  An exact and a
rounded number always differ. -/
def Number.same : Number → Number → Bool
  | .integer left _, .integer right _ => left = right
  | .real left _, .real right _ => left.numericEq right
  | _, _ => false

inductive Tree where
  | null
  | boolean (value : Bool)
  | number (value : Number)
  | string (value : String)
  | array (items : List Tree)
  | object (members : List (String × Tree))

namespace Tree

def isNull : Tree → Bool
  | .null => true
  | _ => false

mutual

/-- Equality of trees, with rounded numbers compared as numbers. -/
def same : Tree → Tree → Bool
  | .null, .null => true
  | .boolean left, .boolean right => left = right
  | .number left, .number right => left.same right
  | .string left, .string right => left = right
  | .array left, .array right => sameItems left right
  | .object left, .object right => sameMembers left right
  | _, _ => false

def sameItems : List Tree → List Tree → Bool
  | [], [] => true
  | left :: lefts, right :: rights => same left right && sameItems lefts rights
  | _, _ => false

def sameMembers : List (String × Tree) → List (String × Tree) → Bool
  | [], [] => true
  | (leftKey, left) :: lefts, (rightKey, right) :: rights =>
      leftKey = rightKey && same left right && sameMembers lefts rights
  | _, _ => false

end

end Tree

end TypedSql.Json
