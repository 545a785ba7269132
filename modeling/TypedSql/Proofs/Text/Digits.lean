import TypedSql.Proofs.Lexicographic
import TypedSql.Text.Numeral

/-!
# Digit strings

A padded numeral is a string of decimal digits that denotes its number.  A
scanner that is given enough of a numeral and no digit behind it finds exactly
that number.
-/

namespace TypedSql.Numeral

/-- A string of decimal digits. -/
def AllDigits (digits : List Char) : Prop :=
  ∀ digit ∈ digits, digit.isDigit

/-- The text does not go on with a digit. -/
def NoDigitAhead : List Char → Prop
  | [] => True
  | character :: _ => ¬character.isDigit

theorem AllDigits.append {left right : List Char} (first : AllDigits left)
    (second : AllDigits right) : AllDigits (left ++ right) := by
  intro digit member
  rcases List.mem_append.mp member with inLeft | inRight
  · exact first digit inLeft
  · exact second digit inRight

theorem AllDigits.tail {digit : Char} {digits : List Char}
    (allDigits : AllDigits (digit :: digits)) : AllDigits digits :=
  fun other member => allDigits other (List.mem_cons_of_mem _ member)

theorem allDigits_padded (width value : Nat) :
    AllDigits (padded width value) := by
  apply AllDigits.append
  · intro digit member
    rw [(List.mem_replicate.mp member).2]
    decide
  · intro digit member
    exact Nat.isDigit_of_mem_toDigits (by decide) (by decide) member

theorem length_padded {width number : Nat} (positive : 0 < width)
    (fits : number < 10 ^ width) : (padded width number).length = width := by
  have atMost : (Nat.toDigits 10 number).length ≤ width :=
    (Nat.length_toDigits_le_iff (by decide) positive).mpr fits
  simp only [padded, List.length_append, List.length_replicate]
  omega

theorem value_padded (width number : Nat) :
    value (padded width number) = number := by
  simp [value, padded, Nat.ofDigitChars_append]

theorem value_cons (digit : Char) (digits : List Char) :
    value (digit :: digits) =
      (digit.toNat - 48) * 10 ^ digits.length + value digits := by
  unfold value
  rw [Nat.ofDigitChars_cons, Nat.ofDigitChars_eq_ofDigitChars_zero]
  simp [Nat.mul_comm]

theorem value_append (left right : List Char) :
    value (left ++ right) =
      value left * 10 ^ right.length + value right := by
  unfold value
  rw [Nat.ofDigitChars_append, Nat.ofDigitChars_eq_ofDigitChars_zero,
    Nat.mul_comm]

theorem toNat_of_isDigit {digit : Char} (isDigit : digit.isDigit) :
    48 ≤ digit.toNat ∧ digit.toNat ≤ 57 := by
  simp only [Char.isDigit, Bool.and_eq_true, decide_eq_true_eq,
    UInt32.le_iff_toNat_le] at isDigit
  exact isDigit

theorem value_lt {digits : List Char} (allDigits : AllDigits digits) :
    value digits < 10 ^ digits.length := by
  induction digits with
  | nil => decide
  | cons digit digits induction =>
      have small := toNat_of_isDigit (allDigits digit List.mem_cons_self)
      have rest := induction allDigits.tail
      have bounded :
          (digit.toNat - 48) * 10 ^ digits.length ≤
            9 * 10 ^ digits.length :=
        Nat.mul_le_mul_right _ (by omega)
      rw [value_cons, List.length_cons, Nat.pow_succ]
      omega

theorem compare_toNat (left right : Char) :
    compare left right = compare left.toNat right.toNat := by
  have less : left < right ↔ left.toNat < right.toNat := Iff.rfl
  have same : left = right ↔ left.toNat = right.toNat := Char.toNat_inj.symm
  change compareOfLessAndEq left right =
    compareOfLessAndEq left.toNat right.toNat
  simp only [compareOfLessAndEq, less, same]

/-- Equally many digits are in the order of the numbers that they denote. -/
theorem compare_digits {left right : List Char} (first : AllDigits left)
    (second : AllDigits right) (sameLength : left.length = right.length) :
    compare left right = compare (value left) (value right) := by
  induction left generalizing right with
  | nil =>
      cases right with
      | nil => rfl
      | cons digit right => cases sameLength
  | cons digit left induction =>
      cases right with
      | nil => cases sameLength
      | cons other right =>
          have restLength : left.length = right.length :=
            Nat.succ.inj sameLength
          have small := value_lt first.tail
          rw [restLength] at small
          have here := toNat_of_isDigit (first digit List.mem_cons_self)
          have there := toNat_of_isDigit (second other List.mem_cons_self)
          have heads : compare digit other =
              compare (digit.toNat - 48) (other.toNat - 48) := by
            have less : digit.toNat - 48 < other.toNat - 48 ↔
                digit.toNat < other.toNat := by omega
            have greater : other.toNat - 48 < digit.toNat - 48 ↔
                other.toNat < digit.toNat := by omega
            rw [compare_toNat]
            simp only [Nat.compare_eq_ite_lt, less, greater]
          rw [List.compare_cons_cons, value_cons, value_cons, restLength,
            compare_mul_add small (value_lt second.tail), heads,
            induction first.tail second.tail restLength]

theorem eq_of_value_eq {left right : List Char} (first : AllDigits left)
    (second : AllDigits right) (sameLength : left.length = right.length)
    (sameValue : value left = value right) : left = right := by
  have ordered := compare_digits first second sameLength
  rw [Nat.compare_eq_eq.mpr sameValue] at ordered
  exact Std.LawfulEqOrd.eq_of_compare ordered

theorem compare_padded {width left right : Nat} (positive : 0 < width)
    (leftFits : left < 10 ^ width) (rightFits : right < 10 ^ width) :
    compare (padded width left) (padded width right) = compare left right := by
  have sameLength :=
    (length_padded positive leftFits).trans
      (length_padded positive rightFits).symm
  rw [compare_digits (allDigits_padded _ _) (allDigits_padded _ _) sameLength,
    value_padded, value_padded]

theorem padded_add (front back : Nat) {number : Nat} (frontPositive : 0 < front)
    (backPositive : 0 < back) (fits : number < 10 ^ (front + back)) :
    padded (front + back) number =
      padded front (number / 10 ^ back) ++
        padded back (number % 10 ^ back) := by
  have leading : number / 10 ^ back < 10 ^ front := by
    apply Nat.div_lt_of_lt_mul
    rwa [← Nat.pow_add, Nat.add_comm]
  have remaining : number % 10 ^ back < 10 ^ back :=
    Nat.mod_lt _ (Nat.pow_pos (by decide))
  apply eq_of_value_eq (allDigits_padded _ _)
    ((allDigits_padded _ _).append (allDigits_padded _ _))
  · rw [List.length_append, length_padded (by omega) fits,
      length_padded frontPositive leading,
      length_padded backPositive remaining]
  · rw [value_append, value_padded, value_padded, value_padded,
      length_padded backPositive remaining, Nat.div_add_mod']

theorem takeDigits_append {digits rest : List Char} {limit : Nat}
    (allDigits : AllDigits digits) (room : digits.length ≤ limit)
    (ends : digits.length = limit ∨ NoDigitAhead rest) :
    takeDigits limit (digits ++ rest) = (digits, rest) := by
  induction digits generalizing limit with
  | nil =>
      cases limit with
      | zero => rfl
      | succ limit =>
          cases rest with
          | nil => rfl
          | cons character rest =>
              rcases ends with full | noDigit
              · cases full
              · have none : character.isDigit = false :=
                  Bool.eq_false_iff.mpr noDigit
                simp [takeDigits, none]
  | cons digit digits induction =>
      cases limit with
      | zero => cases room
      | succ limit =>
          have isDigit := allDigits digit List.mem_cons_self
          have restEnds : digits.length = limit ∨ NoDigitAhead rest :=
            ends.imp_left Nat.succ.inj
          have taken :=
            induction allDigits.tail (Nat.le_of_succ_le_succ room) restEnds
          simp [takeDigits, isDigit, taken]

theorem scanExactly?_padded {width number : Nat} (positive : 0 < width)
    (fits : number < 10 ^ width) (rest : List Char) :
    scanExactly? width (padded width number ++ rest) = some (number, rest) := by
  have length := length_padded positive fits
  unfold scanExactly?
  rw [takeDigits_append (allDigits_padded _ _) (Nat.le_of_eq length)
    (.inl length)]
  simp [length, value_padded]

theorem scan?_digits {digits rest : List Char} {limit : Nat}
    (nonempty : digits ≠ []) (allDigits : AllDigits digits)
    (room : digits.length ≤ limit)
    (ends : digits.length = limit ∨ NoDigitAhead rest) :
    scan? limit (digits ++ rest) = some (value digits, rest) := by
  unfold scan?
  rw [takeDigits_append allDigits room ends]
  cases digits with
  | nil => exact (nonempty rfl).elim
  | cons digit digits => rfl

theorem padded_ne_nil (width number : Nat) : padded width number ≠ [] := by
  simp [padded]

end TypedSql.Numeral
