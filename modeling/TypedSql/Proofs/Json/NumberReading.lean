import TypedSql.Json.Printing
import TypedSql.Json.Reading.Number
import TypedSql.Proofs.Text.Digits

/-!
# Reading written integers

An integer that is kept exactly is read back from its digits, where nothing
follows that could belong to a number.
-/

namespace TypedSql.Json

open Numeral (AllDigits)

/-- The text is over, or goes on as it may behind a value. -/
def EndsValue : List Symbol → Prop
  | [] => True
  | symbol :: _ =>
      symbol = .char ',' ∨ symbol = .char ']' ∨ symbol = .char '\x7d'

theorem allDigits_toDigits (number : Nat) :
    AllDigits (Nat.toDigits 10 number) := by
  intro digit member
  exact Nat.isDigit_of_mem_toDigits (by decide) (by decide) member

/-- A numeral begins with a zero only if it is that of zero. -/
theorem toDigits_ne_zero_cons (number : Nat) (digit : Char)
    (digits : List Char) : Nat.toDigits 10 number ≠ '0' :: digit :: digits := by
  intro leading
  have allDigits := allDigits_toDigits number
  rw [leading] at allDigits
  have denoted : Numeral.value ('0' :: digit :: digits) = number := by
    rw [← leading]
    exact Nat.ofDigitChars_toDigits (by decide) (by decide)
  have small : number < 10 ^ (digits.length + 1) := by
    have bounded := Numeral.value_lt allDigits.tail
    rw [Numeral.value_cons] at denoted
    simpa [← denoted] using bounded
  have short := (Nat.length_toDigits_le_iff (by decide) (by omega)).mpr small
  rw [leading] at short
  exact Nat.not_succ_le_self _ short

theorem takeDigits_digits {digits : List Char} (allDigits : AllDigits digits)
    {rest : List Symbol} (ends : EndsValue rest) :
    takeDigits (digits.map .char ++ rest) = (digits, rest) := by
  induction digits with
  | nil =>
      cases rest with
      | nil => rfl
      | cons symbol rest => rcases ends with rfl | rfl | rfl <;> rfl
  | cons digit digits induction =>
      have isDigit := allDigits digit List.mem_cons_self
      simp [takeDigits, isDigit, induction allDigits.tail]

theorem extendSignificand_of_fits {digits : List Char} {significand : Nat}
    (fits : Nat.ofDigitChars 10 digits significand < UInt64.size) :
    extendSignificand significand digits =
      (Nat.ofDigitChars 10 digits significand, 0) := by
  induction digits generalizing significand with
  | nil => rfl
  | cons digit digits induction =>
      rw [Nat.ofDigitChars_cons] at fits ⊢
      have next : 10 * significand + digitValue digit < UInt64.size := by
        rw [Nat.ofDigitChars_eq_ofDigitChars_zero] at fits
        have atLeast : 10 * significand + digitValue digit ≤
            10 ^ digits.length * (10 * significand + digitValue digit) :=
          Nat.le_mul_of_pos_left _ (Nat.pow_pos (by decide))
        exact Nat.lt_of_le_of_lt (Nat.le_trans atLeast (Nat.le_add_right _ _))
          fits
      unfold extendSignificand
      dsimp only
      rw [if_pos next]
      exact induction fits

theorem readRemainder_of_endsValue (negative : Bool) (significand : Nat)
    {rest : List Symbol} (ends : EndsValue rest) :
    readRemainder negative significand 0 rest =
      wholeNumber negative significand rest := by
  cases rest with
  | nil => rfl
  | cons symbol rest => rcases ends with rfl | rfl | rfl <;> rfl

theorem readNumber_toDigits (negative : Bool) {number : Nat}
    (fits : number < UInt64.size) {rest : List Symbol}
    (ends : EndsValue rest) :
    readNumber negative ((Nat.toDigits 10 number).map .char ++ rest) =
      wholeNumber negative number rest := by
  have denoted : Nat.ofDigitChars 10 (Nat.toDigits 10 number) 0 = number :=
    Nat.ofDigitChars_toDigits (by decide) (by decide)
  have taken := takeDigits_digits (allDigits_toDigits number) ends
  have significand : extendSignificand 0 (Nat.toDigits 10 number) =
      (number, 0) := by
    rw [extendSignificand_of_fits (by rwa [denoted]), denoted]
  unfold readNumber
  rw [taken]
  -- There is a digit, and no zero has another digit behind it.
  split
  case h_1 empty _ =>
    exact (Nat.toDigits_ne_nil (Prod.mk.inj empty).1).elim
  case h_2 empty _ =>
    exact (Nat.toDigits_ne_nil (Prod.mk.inj empty).1).elim
  case h_3 leading =>
    exact (toDigits_ne_zero_cons _ _ _ (Prod.mk.inj leading).1).elim
  case h_4 same _ =>
    obtain ⟨rfl, rfl⟩ := Prod.mk.inj same
    rw [significand]
    exact readRemainder_of_endsValue negative number ends

theorem wholeNumber_of_value {negative : Bool} {significand : Nat}
    {value : Int} (inRange : IntegerRange value)
    (denoted :
      (if negative then -(significand : Int) else significand) = value)
    (notNegativeZero : (negative && significand = 0) = false)
    (rest : List Symbol) :
    wholeNumber negative significand rest =
      .ok (.integer value inRange, rest) := by
  subst denoted
  unfold wholeNumber
  rw [notNegativeZero]
  exact dif_pos inRange

/-- A written integer is read back, behind its sign if it has one. -/
theorem readNumber_writeInteger {value : Int} (inRange : IntegerRange value)
    {rest : List Symbol} (ends : EndsValue rest) :
    (∃ digits, writeInteger value = '-' :: digits ∧
      readNumber true (digits.map .char ++ rest) =
        .ok (.integer value inRange, rest)) ∨
    ((∃ digit digits, writeInteger value = digit :: digits ∧
        digit.isDigit = true) ∧
      readNumber false ((writeInteger value).map .char ++ rest) =
        .ok (.integer value inRange, rest)) := by
  obtain ⟨lower, upper⟩ := inRange
  unfold writeInteger
  by_cases negative : value < 0
  · left
    refine ⟨_, if_pos negative, ?_⟩
    have fits : value.natAbs < UInt64.size := by
      change value.natAbs < 2 ^ 64
      omega
    rw [readNumber_toDigits true fits ends]
    apply wholeNumber_of_value
    · simp only [if_true]
      omega
    · simp only [Bool.true_and, decide_eq_false_iff_not]
      omega
  · right
    rw [if_neg negative]
    have fits : value.toNat < UInt64.size := by
      change value.toNat < 2 ^ 64
      omega
    constructor
    · cases digits : Nat.toDigits 10 value.toNat with
      | nil => exact (Nat.toDigits_ne_nil digits).elim
      | cons digit others =>
          have allDigits := allDigits_toDigits value.toNat
          rw [digits] at allDigits
          exact ⟨digit, others, rfl, allDigits digit List.mem_cons_self⟩
    · rw [readNumber_toDigits false fits ends]
      apply wholeNumber_of_value
      · simp only [Bool.false_eq_true, if_false]
        omega
      · rfl

end TypedSql.Json
