import Mathlib.Algebra.Group.Nat.Defs

/-!
# Lexicographic comparison

Numbers and texts are compared by their leading parts first.
-/

namespace TypedSql

theorem eq_then {key whole rest : Ordering} (less : key = .lt → whole = .lt)
    (greater : key = .gt → whole = .gt) (level : key = .eq → whole = rest) :
    whole = key.then rest := by
  cases key with
  | lt => exact less rfl
  | eq => exact level rfl
  | gt => exact greater rfl

/-- Where the leading parts differ, they decide which number is less; otherwise
the remainders do. -/
theorem compare_mul_add {unit left right leftRest rightRest : Nat}
    (leftSmall : leftRest < unit) (rightSmall : rightRest < unit) :
    compare (left * unit + leftRest) (right * unit + rightRest) =
      (compare left right).then (compare leftRest rightRest) := by
  -- One unit more in the leading part outweighs any remainder.
  apply eq_then
  · intro less
    have whole :=
      Nat.mul_le_mul_right unit (Nat.succ_le_of_lt (Nat.compare_eq_lt.mp less))
    rw [Nat.succ_mul] at whole
    exact Nat.compare_eq_lt.mpr (by omega)
  · intro greater
    have whole := Nat.mul_le_mul_right unit
      (Nat.succ_le_of_lt (Nat.compare_eq_gt.mp greater))
    rw [Nat.succ_mul] at whole
    exact Nat.compare_eq_gt.mpr (by omega)
  · intro level
    rw [Nat.compare_eq_eq.mp level]
    simp only [Nat.compare_eq_ite_lt, Nat.add_lt_add_iff_left]

/-- Where texts begin with parts of one length, these are compared first. -/
theorem compare_append {left right leftRest rightRest : List Char}
    (sameLength : left.length = right.length) :
    compare (left ++ leftRest) (right ++ rightRest) =
      (compare left right).then (compare leftRest rightRest) := by
  induction left generalizing right with
  | nil =>
      cases right with
      | nil => rfl
      | cons character right => cases sameLength
  | cons character left induction =>
      cases right with
      | nil => cases sameLength
      | cons other right =>
          have restLength : left.length = right.length :=
            Nat.succ.inj sameLength
          rw [List.cons_append, List.cons_append, List.compare_cons_cons,
            List.compare_cons_cons, induction restLength,
            Ordering.then_assoc]

/-- Texts with the same mark behind parts of one length are compared by these
parts and then by what follows the mark. -/
theorem compare_separated {left right leftRest rightRest : List Char}
    (mark : Char) (sameLength : left.length = right.length) :
    compare (left ++ mark :: leftRest) (right ++ mark :: rightRest) =
      (compare left right).then (compare leftRest rightRest) := by
  rw [compare_append sameLength, List.compare_cons_cons,
    Std.ReflOrd.compare_self, Ordering.then]

/-- Integers that lie as far apart as natural numbers are in their order. -/
theorem compare_of_sub_eq {left right : Int} {leftPart rightPart : Nat}
    (apart : left - right = (leftPart : Int) - rightPart) :
    compare left right = compare leftPart rightPart := by
  rcases Nat.lt_trichotomy leftPart rightPart with less | same | greater
  · rw [Nat.compare_eq_lt.mpr less]
    exact Int.compare_eq_lt.mpr (by omega)
  · rw [Nat.compare_eq_eq.mpr same]
    exact Int.compare_eq_eq.mpr (by omega)
  · rw [Nat.compare_eq_gt.mpr greater]
    exact Int.compare_eq_gt.mpr (by omega)

/-- Texts are in the order of their numbers if the text of zero comes first and
the others are. -/
theorem compare_texts {left right : Nat} (text : Nat → List Char)
    (leftLater : left ≠ 0 → compare (text 0) (text left) = .lt)
    (rightLater : right ≠ 0 → compare (text 0) (text right) = .lt)
    (others : left ≠ 0 → right ≠ 0 →
      compare (text left) (text right) = compare left right) :
    compare (text left) (text right) = compare left right := by
  by_cases leftZero : left = 0
  · by_cases rightZero : right = 0
    · rw [leftZero, rightZero, Std.ReflOrd.compare_self,
        Std.ReflOrd.compare_self]
    · rw [leftZero, rightLater rightZero]
      exact (Nat.compare_eq_lt.mpr (Nat.pos_of_ne_zero rightZero)).symm
  · by_cases rightZero : right = 0
    · rw [rightZero, Std.OrientedOrd.eq_swap, leftLater leftZero]
      exact (Nat.compare_eq_gt.mpr (Nat.pos_of_ne_zero leftZero)).symm
    · exact others leftZero rightZero

end TypedSql
