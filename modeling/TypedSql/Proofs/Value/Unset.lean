import Mathlib.Algebra.Order.Field.Basic
import Mathlib.Algebra.Order.Ring.Rat
import Mathlib.Data.Rat.Lemmas
import Mathlib.Tactic.Positivity
import TypedSql.Binary64.Arithmetic
import TypedSql.Value

/-!
# Values that count as unset

A value is unset if it is null or the zero of its kind, and so is a real that is
nearer to zero than the spacing of doubles at one.
-/

namespace TypedSql

namespace Binary64

-- Powers are those of the core library, whatever else is imported.
attribute [local instance (high)] instPowNat

theorem abs_toRat (number : Binary64) :
    |number.toRat| =
      ((number.significand * 2 ^ (number.binade - 1075) : Nat) : Rat) /
        ((2 ^ (1075 - number.binade) : Nat) : Rat) := by
  unfold toRat ratio
  dsimp only
  rw [Rat.mkRat_eq_div]
  split
  case isTrue =>
    rw [abs_neg, abs_of_nonneg (by positivity)]
    rfl
  case isFalse =>
    rw [abs_of_nonneg (by positivity)]
    rfl

theorem significand_lt (number : Binary64) : number.significand < 2 ^ 53 := by
  have leading : leadingBit = 2 ^ 52 := by decide
  unfold significand
  rw [leading]
  split <;> omega

/-- The significand of a normal number has its leading bit. -/
theorem le_significand {number : Binary64}
    (normal : leadingBit ≤ number.magnitude) :
    2 ^ 52 ≤ number.significand := by
  unfold significand
  rw [if_neg (Nat.not_lt_of_le normal)]
  exact Nat.le_add_right _ _

/-- In the binades below the one of `2 ^ -52` all numbers are negligible, and in
the others none is. -/
theorem isNegligible_iff_binade {number : Binary64} :
    number.isNegligible = true ↔ number.binade < 971 := by
  have leading : leadingBit = 2 ^ 52 := by decide
  unfold isNegligible binade unitSpacingMagnitude
  rw [decide_eq_true_iff, leading]
  omega

theorem isNegligible_iff_scaled {number : Binary64} :
    number.isNegligible = true ↔
      number.significand * 2 ^ (number.binade - 1075) * 2 ^ 52 <
        2 ^ (1075 - number.binade) := by
  rw [isNegligible_iff_binade]
  constructor
  · intro below
    have scale : number.binade - 1075 = 0 := by omega
    rw [scale, Nat.pow_zero, Nat.mul_one]
    calc
      number.significand * 2 ^ 52 < 2 ^ 53 * 2 ^ 52 :=
        Nat.mul_lt_mul_of_pos_right (significand_lt number) (by decide)
      _ ≤ 2 ^ (1075 - number.binade) := by
        rw [← Nat.pow_add]
        exact Nat.pow_le_pow_right (by decide) (by omega)
  · intro less
    by_contra above
    have normal : leadingBit ≤ number.magnitude := by
      have leading : leadingBit = 2 ^ 52 := by decide
      unfold binade at above
      rw [leading] at above ⊢
      omega
    apply Nat.not_le_of_lt less
    calc
      2 ^ (1075 - number.binade) ≤ 2 ^ 52 * 1 * 2 ^ 52 := by
        rw [Nat.mul_one, ← Nat.pow_add]
        exact Nat.pow_le_pow_right (by decide) (by omega)
      _ ≤ number.significand * 2 ^ (number.binade - 1075) * 2 ^ 52 :=
        Nat.mul_le_mul_right _
          (Nat.mul_le_mul (le_significand normal) (Nat.two_pow_pos _))

/-- Negligible doubles are finite, and nearer to zero than `2 ^ -52`. -/
theorem isNegligible_iff {number : Binary64} :
    number.isNegligible = true ↔
      number.isFinite = true ∧ |number.toRat| < 1 / 2 ^ 52 := by
  have denominator :
      (0 : Rat) < ((2 ^ (1075 - number.binade) : Nat) : Rat) := by
    positivity
  have nearer : |number.toRat| < 1 / 2 ^ 52 ↔ number.isNegligible = true := by
    rw [isNegligible_iff_scaled, abs_toRat,
      div_lt_div_iff₀ denominator (by positivity), one_mul]
    exact_mod_cast Iff.rfl
  rw [nearer]
  constructor
  · intro negligible
    refine ⟨?_, negligible⟩
    have bounded : unitSpacingMagnitude < infinityMagnitude := by decide
    simp only [isNegligible, isFinite, decide_eq_true_eq] at negligible ⊢
    omega
  · rintro ⟨-, negligible⟩
    exact negligible

theorem isNegligible_of_isZero {number : Binary64}
    (zero : number.isZero = true) : number.isNegligible = true := by
  have positive : 0 < unitSpacingMagnitude := by decide
  simp only [isZero, isNegligible, decide_eq_true_eq] at zero ⊢
  omega

end Binary64

namespace Value

/-- The null, and the zeros of the kinds.  Instants and dates have none. -/
def IsZero : Value → Prop
  | .null => True
  | .integer value => value = 0
  | .real value => value.isZero
  | .text value => value = ""
  | .boolean value => value = false
  | .bytes value => value = .empty
  | .timestamp _ => False
  | .date _ => False
  | .json value => value.tree = .null

/-- A real that is nearer to zero than the spacing of doubles at one. -/
def IsTiny : Value → Prop
  | .real value => value.isFinite ∧ |value.toRat| < 1 / 2 ^ 52
  | _ => False

theorem isUnset_iff {value : Value} :
    value.isUnset = true ↔ value.IsZero ∨ value.IsTiny := by
  cases value with
  | null => simp [isUnset, IsZero]
  | integer value => simp [isUnset, IsZero, IsTiny]
  | real value =>
      change value.isNegligible = true ↔
        value.isZero = true ∨
          value.isFinite = true ∧ |value.toRat| < 1 / 2 ^ 52
      rw [← Binary64.isNegligible_iff]
      constructor
      · exact .inr
      · rintro (zero | negligible)
        · exact Binary64.isNegligible_of_isZero zero
        · exact negligible
  | text value => simp [isUnset, IsZero, IsTiny]
  | boolean value => simp [isUnset, IsZero, IsTiny]
  | bytes value =>
      simp [isUnset, IsZero, IsTiny, ByteArray.isEmpty]
  | timestamp value => simp [isUnset, IsZero, IsTiny]
  | date value => simp [isUnset, IsZero, IsTiny]
  | json value =>
      cases nullness : value.tree <;>
        simp [isUnset, IsZero, IsTiny, Json.Document.isNull, nullness,
          Json.Tree.isNull]

end Value

end TypedSql
