import TypedSql.Json.Document
import TypedSql.Proofs.Json.ValueReading

/-!
# Equality up to the signs of zeros

Doubles compare equal if they are the same but for the sign of a zero, and no
NaN.  Trees compare equal if they are the same but for the signs of the zeros
among their rounded numbers, which are never NaN.  Where one of two trees has no
rounded number, they compare equal only if they are the same.
-/

namespace TypedSql

namespace Binary64

/-- The number, or the positive zero if it is a zero. -/
def dropZeroSign (number : Binary64) : Binary64 :=
  if number.isZero then zero else number

variable {number left right : Binary64}

theorem isNaN_eq_false_of_isZero (isZero : number.isZero = true) :
    number.isNaN = false := by
  have positive : 0 < infinityMagnitude := by decide
  simp only [Binary64.isZero, isNaN, decide_eq_true_eq,
    decide_eq_false_iff_not] at isZero ⊢
  omega

theorem isNaN_eq_false_of_isFinite (finite : number.isFinite = true) :
    number.isNaN = false := by
  simp only [isFinite, isNaN, decide_eq_true_eq, decide_eq_false_iff_not]
    at finite ⊢
  omega

theorem isFinite_dropZeroSign (finite : number.isFinite = true) :
    number.dropZeroSign.isFinite = true := by
  unfold dropZeroSign
  split
  case isTrue => decide
  case isFalse => exact finite

theorem isZero_dropZeroSign : number.dropZeroSign.isZero = number.isZero := by
  unfold dropZeroSign
  split
  case isTrue isZero =>
    rw [isZero]
    decide
  case isFalse => rfl

theorem numericEq_iff :
    left.numericEq right = true ↔
      left.isNaN = false ∧ left.dropZeroSign = right.dropZeroSign := by
  constructor
  · intro equal
    simp only [numericEq, Bool.and_eq_true, Bool.or_eq_true,
      Bool.not_eq_true', beq_iff_eq] at equal
    obtain ⟨⟨number, -⟩, sameBits | ⟨leftZero, rightZero⟩⟩ := equal
    · have same : left = right := congrArg Binary64.mk sameBits
      exact ⟨number, congrArg dropZeroSign same⟩
    · refine ⟨number, ?_⟩
      rw [dropZeroSign, dropZeroSign, if_pos leftZero, if_pos rightZero]
  · rintro ⟨number, same⟩
    have zeros : left.isZero = right.isZero := by
      rw [← isZero_dropZeroSign, same, isZero_dropZeroSign]
    by_cases leftZero : left.isZero = true
    · have rightZero : right.isZero = true := by rw [← zeros, leftZero]
      simp [numericEq, leftZero, rightZero,
        isNaN_eq_false_of_isZero leftZero, isNaN_eq_false_of_isZero rightZero]
    · have rightNonzero : ¬right.isZero = true := by rwa [← zeros]
      rw [dropZeroSign, dropZeroSign, if_neg leftZero, if_neg rightNonzero]
        at same
      rw [← same]
      simp [numericEq, number]

end Binary64

namespace Json

/-- The number, without the sign of a zero. -/
def Number.dropZeroSign : Number → Number
  | .integer value inRange => .integer value inRange
  | .real value finite =>
      .real value.dropZeroSign (Binary64.isFinite_dropZeroSign finite)

theorem Number.same_iff {left right : Number} :
    left.same right = true ↔ left.dropZeroSign = right.dropZeroSign := by
  cases left with
  | integer left leftRange =>
      cases right <;> simp [Number.same, dropZeroSign]
  | real left leftFinite =>
      cases right with
      | integer right rightRange => simp [Number.same, dropZeroSign]
      | real right rightFinite =>
          have number := Binary64.isNaN_eq_false_of_isFinite leftFinite
          simp [Number.same, dropZeroSign, Binary64.numericEq_iff, number]

namespace Tree

mutual

/-- The tree with all its zeros positive. -/
def dropZeroSigns : Tree → Tree
  | .null => .null
  | .boolean value => .boolean value
  | .number value => .number value.dropZeroSign
  | .string value => .string value
  | .array items => .array (dropZeroSignsOfItems items)
  | .object members => .object (dropZeroSignsOfMembers members)

def dropZeroSignsOfItems : List Tree → List Tree
  | [] => []
  | item :: items => dropZeroSigns item :: dropZeroSignsOfItems items

def dropZeroSignsOfMembers : List (String × Tree) → List (String × Tree)
  | [] => []
  | (key, value) :: members =>
      (key, dropZeroSigns value) :: dropZeroSignsOfMembers members

end

mutual

theorem same_iff (left right : Tree) :
    left.same right = true ↔ left.dropZeroSigns = right.dropZeroSigns := by
  cases left with
  | null => cases right <;> simp [same, dropZeroSigns]
  | boolean left => cases right <;> simp [same, dropZeroSigns]
  | number left =>
      cases right <;> simp [same, dropZeroSigns, Number.same_iff]
  | string left => cases right <;> simp [same, dropZeroSigns]
  | array lefts =>
      cases right with
      | array rights =>
          simp [same, dropZeroSigns, sameItems_iff lefts rights]
      | null | boolean | number | string | object =>
          simp [same, dropZeroSigns]
  | object lefts =>
      cases right with
      | object rights =>
          simp [same, dropZeroSigns, sameMembers_iff lefts rights]
      | null | boolean | number | string | array =>
          simp [same, dropZeroSigns]

theorem sameItems_iff (lefts rights : List Tree) :
    sameItems lefts rights = true ↔
      dropZeroSignsOfItems lefts = dropZeroSignsOfItems rights := by
  cases lefts with
  | nil => cases rights <;> simp [sameItems, dropZeroSignsOfItems]
  | cons left lefts =>
      cases rights with
      | nil => simp [sameItems, dropZeroSignsOfItems]
      | cons right rights =>
          simp [sameItems, dropZeroSignsOfItems, same_iff left right,
            sameItems_iff lefts rights]

theorem sameMembers_iff (lefts rights : List (String × Tree)) :
    sameMembers lefts rights = true ↔
      dropZeroSignsOfMembers lefts = dropZeroSignsOfMembers rights := by
  cases lefts with
  | nil => cases rights <;> simp [sameMembers, dropZeroSignsOfMembers]
  | cons left lefts =>
      cases rights with
      | nil => simp [sameMembers, dropZeroSignsOfMembers]
      | cons right rights =>
          simp [sameMembers, dropZeroSignsOfMembers,
            same_iff left.2 right.2, sameMembers_iff lefts rights]

end

mutual

theorem dropZeroSigns_of_exact (tree : Tree) (exact : tree.Exact) :
    tree.dropZeroSigns = tree := by
  cases tree with
  | null | boolean | string => rfl
  | number value =>
      cases value with
      | integer => rfl
      | real => exact exact.elim
  | array items =>
      exact congrArg Tree.array (dropZeroSignsOfItems_of_exact items exact)
  | object members =>
      exact congrArg Tree.object
        (dropZeroSignsOfMembers_of_exact members exact)

theorem dropZeroSignsOfItems_of_exact (items : List Tree)
    (exact : ExactItems items) : dropZeroSignsOfItems items = items := by
  cases items with
  | nil => rfl
  | cons item items =>
      rw [dropZeroSignsOfItems, dropZeroSigns_of_exact item exact.1,
        dropZeroSignsOfItems_of_exact items exact.2]

theorem dropZeroSignsOfMembers_of_exact (members : List (String × Tree))
    (exact : ExactMembers members) :
    dropZeroSignsOfMembers members = members := by
  cases members with
  | nil => rfl
  | cons member members =>
      rw [dropZeroSignsOfMembers, dropZeroSigns_of_exact member.2 exact.1,
        dropZeroSignsOfMembers_of_exact members exact.2]

end

mutual

/-- Only rounded numbers are zeros with a sign. -/
theorem exact_of_dropZeroSigns (tree : Tree)
    (exact : tree.dropZeroSigns.Exact) : tree.Exact := by
  cases tree with
  | null | boolean | string => trivial
  | number value =>
      cases value with
      | integer => trivial
      | real => exact exact
  | array items => exact exactItems_of_dropZeroSigns items exact
  | object members => exact exactMembers_of_dropZeroSigns members exact

theorem exactItems_of_dropZeroSigns (items : List Tree)
    (exact : ExactItems (dropZeroSignsOfItems items)) : ExactItems items := by
  cases items with
  | nil => trivial
  | cons item items =>
      exact ⟨exact_of_dropZeroSigns item exact.1,
        exactItems_of_dropZeroSigns items exact.2⟩

theorem exactMembers_of_dropZeroSigns (members : List (String × Tree))
    (exact : ExactMembers (dropZeroSignsOfMembers members)) :
    ExactMembers members := by
  cases members with
  | nil => trivial
  | cons member members =>
      exact ⟨exact_of_dropZeroSigns member.2 exact.1,
        exactMembers_of_dropZeroSigns members exact.2⟩

end

/-- Trees that differ in nothing but signs of zeros are the same if one of them
has no rounded number. -/
theorem eq_of_dropZeroSigns_eq {left right : Tree}
    (same : left.dropZeroSigns = right.dropZeroSigns)
    (exact : left.Exact ∨ right.Exact) : left = right := by
  have both : left.Exact ∧ right.Exact := by
    rcases exact with leftExact | rightExact
    · refine ⟨leftExact, exact_of_dropZeroSigns right ?_⟩
      rwa [← same, dropZeroSigns_of_exact left leftExact]
    · refine ⟨exact_of_dropZeroSigns left ?_, rightExact⟩
      rwa [same, dropZeroSigns_of_exact right rightExact]
  rwa [dropZeroSigns_of_exact left both.1, dropZeroSigns_of_exact right both.2]
    at same

end Tree

end Json

end TypedSql
