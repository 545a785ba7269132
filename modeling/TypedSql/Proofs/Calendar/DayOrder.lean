import TypedSql.Calendar.Unix
import TypedSql.Proofs.Lexicographic

/-!
# Order of days

Days are numbered in the order of their years, then of their months and then of
the days of the month.  Instants are ordered by their seconds and then by their
nanoseconds, so that a leap second is behind all fractions of second 59.
-/

namespace TypedSql

theorem daysBeforeYear_succ (year : Int) :
    daysBeforeYear (year + 1) =
      daysBeforeYear year + 365 + (if isLeapYear year then 1 else 0) := by
  unfold daysBeforeYear isLeapYear
  simp only [Bool.and_eq_true, Bool.or_eq_true, decide_eq_true_eq]
  split <;> omega

theorem daysBeforeYear_mono {left right : Int} (before : left ≤ right) :
    daysBeforeYear left ≤ daysBeforeYear right := by
  unfold daysBeforeYear
  omega

theorem daysBeforeMonth_succ (year : Int) {month : Nat} (positive : 1 ≤ month) :
    daysBeforeMonth year (month + 1) =
      daysBeforeMonth year month + daysInMonth year month := by
  cases month with
  | zero => cases positive
  | succ month => rfl

theorem daysBeforeMonth_mono (year : Int) {left right : Nat}
    (positive : 1 ≤ left) (before : left ≤ right) :
    daysBeforeMonth year left ≤ daysBeforeMonth year right := by
  induction before with
  | refl => exact Nat.le_refl _
  | step before induction =>
      rw [daysBeforeMonth_succ year (Nat.le_trans positive before)]
      exact Nat.le_trans induction (Nat.le_add_right _ _)

/-- The days of all months are those of the year. -/
theorem daysBeforeMonth_thirteen (year : Int) :
    (daysBeforeMonth year 13 : Int) =
      365 + (if isLeapYear year then 1 else 0) := by
  cases leap : isLeapYear year <;> simp [daysBeforeMonth, daysInMonth, leap]

namespace Date

/-- The position of a day in its year, counted from one. -/
def dayOfYear (date : Date) : Nat :=
  daysBeforeMonth date.year date.month + date.day

theorem dayOfYear_pos (date : Date) : 1 ≤ date.dayOfYear :=
  Nat.le_trans date.valid.day_pos (Nat.le_add_left _ _)

theorem dayOfYear_le (date : Date) {month : Nat} (before : date.month < month) :
    date.dayOfYear ≤ daysBeforeMonth date.year month := by
  have next := daysBeforeMonth_succ date.year date.valid.month_pos
  have later := daysBeforeMonth_mono date.year (Nat.le_add_left 1 date.month)
    (Nat.succ_le_of_lt before)
  have within := date.valid.day_le
  unfold dayOfYear
  omega

theorem dayNumber_eq (date : Date) :
    date.dayNumber = daysBeforeYear date.year + date.dayOfYear - 719529 := by
  unfold dayNumber dayOfYear
  omega

theorem dayNumber_lt_of_year_lt {left right : Date}
    (before : left.year < right.year) : left.dayNumber < right.dayNumber := by
  -- A year ends before the next one begins, and later years are further on.
  have ofYear : left.dayOfYear ≤ daysBeforeMonth left.year 13 :=
    left.dayOfYear_le (Nat.lt_succ_of_le left.valid.month_le)
  have wholeYear := daysBeforeMonth_thirteen left.year
  have nextYear := daysBeforeYear_succ left.year
  have later := daysBeforeYear_mono (Int.add_one_le_of_lt before)
  have first := right.dayOfYear_pos
  rw [dayNumber_eq, dayNumber_eq]
  omega

theorem dayNumber_lt_of_month_lt {left right : Date}
    (sameYear : left.year = right.year) (before : left.month < right.month) :
    left.dayNumber < right.dayNumber := by
  have ofYear := left.dayOfYear_le before
  have positive := right.valid.day_pos
  have unfolded : right.dayOfYear =
      daysBeforeMonth right.year right.month + right.day := rfl
  rw [sameYear] at ofYear
  rw [dayNumber_eq, dayNumber_eq, sameYear]
  omega

theorem compare_dayNumber {left right : Date}
    (sameYear : left.year = right.year) (sameMonth : left.month = right.month) :
    compare left.dayNumber right.dayNumber = compare left.day right.day := by
  apply compare_of_sub_eq
  unfold dayNumber
  rw [sameYear, sameMonth]
  omega

/-- The order of two days. -/
def chronological (left right : Date) : Ordering :=
  compare left.dayNumber right.dayNumber

theorem chronological_eq (left right : Date) :
    left.chronological right =
      (compare left.year right.year).then
        ((compare left.month right.month).then
          (compare left.day right.day)) := by
  apply eq_then
  · intro less
    exact Int.compare_eq_lt.mpr
      (dayNumber_lt_of_year_lt (Int.compare_eq_lt.mp less))
  · intro greater
    exact Int.compare_eq_gt.mpr
      (dayNumber_lt_of_year_lt (Int.compare_eq_gt.mp greater))
  · intro level
    have sameYear := Int.compare_eq_eq.mp level
    apply eq_then
    · intro less
      exact Int.compare_eq_lt.mpr
        (dayNumber_lt_of_month_lt sameYear (Nat.compare_eq_lt.mp less))
    · intro greater
      exact Int.compare_eq_gt.mpr
        (dayNumber_lt_of_month_lt sameYear.symm (Nat.compare_eq_gt.mp greater))
    · intro levelMonth
      have sameMonth := Nat.compare_eq_eq.mp levelMonth
      exact compare_dayNumber sameYear sameMonth

end Date

namespace Instant

/-- The order of two instants. -/
def chronological (left right : Instant) : Ordering :=
  (compare left.unixSeconds right.unixSeconds).then
    (compare left.time.nanosecond right.time.nanosecond)

theorem compare_unixSeconds (left right : Instant) :
    compare left.unixSeconds right.unixSeconds =
      (left.date.chronological right.date).then
        (compare left.time.second right.time.second) := by
  have leftWithin := left.time.second_lt
  have rightWithin := right.time.second_lt
  unfold unixSeconds
  apply eq_then
  · intro less
    have dayLess := Int.compare_eq_lt.mp less
    exact Int.compare_eq_lt.mpr (by omega)
  · intro greater
    have dayGreater := Int.compare_eq_gt.mp greater
    exact Int.compare_eq_gt.mpr (by omega)
  · intro level
    have sameDay := Int.compare_eq_eq.mp level
    exact compare_of_sub_eq (by omega)

end Instant

end TypedSql
