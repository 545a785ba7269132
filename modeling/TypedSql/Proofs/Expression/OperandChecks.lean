import TypedSql.Expression.Assignment
import TypedSql.Proofs.Success

/-!
# Checked operands

A column takes the values of its own kind, and null if it is nullable, as long
as no aggregate is attached to it.  Every way to give an operand to a column
asks for exactly this.
-/

namespace TypedSql

theorem Value.kind?_eq_none_iff {value : Value} :
    value.kind? = none ↔ value = .null := by
  cases value <;> simp [kind?]

/-- The stored forms of the values of a kind. -/
def Kind.Stores : Kind → Datum → Prop
  | .integer, .integer _ => True
  | .boolean, .integer value => value = 0 ∨ value = 1
  | .real, .real _ => True
  | .text, .text _ => True
  | .timestamp, .text _ => True
  | .date, .text _ => True
  | .json, .text _ => True
  | .bytes, .blob _ => True
  | _, _ => False

theorem Kind.stores_toDatum {kind : Kind} {value : Value}
    (own : value.kind? = some kind) : kind.Stores value.toDatum := by
  cases value with
  | null => cases own
  | boolean value =>
      cases own
      cases value with
      | false => exact .inl rfl
      | true => exact .inr rfl
  | integer | real | text | bytes | timestamp | date | json =>
      cases own
      trivial

namespace Column

/-- The column carries no aggregate, and the operand is of its kind or a null
that it allows. -/
structure Takes (column : Column) (operand : Value) : Prop where
  plain : column.aggregation = .plain
  typed : operand.kind? = some column.kind ∨
    operand = .null ∧ column.nullable = true

/-- What may be stored for an operand of the column. -/
def Stores (column : Column) (datum : Datum) : Prop :=
  column.kind.Stores datum ∨ datum = .null ∧ column.nullable = true

variable {column : Column} {operand : Value} {operands : List Value}

theorem Takes.stores (takes : column.Takes operand) :
    column.Stores operand.toDatum := by
  rcases takes.typed with ofKind | ⟨isNull, nullable⟩
  · exact .inl (Kind.stores_toDatum ofKind)
  · rw [isNull]
    exact .inr ⟨rfl, nullable⟩

theorem requirePlain_eq_ok_iff :
    column.requirePlain = .ok () ↔ column.aggregation = .plain := by
  unfold requirePlain aggregate?
  cases column.aggregation <;> simp [Aggregation.aggregate?]

theorem accepts_iff :
    column.accepts operand = true ↔
      operand.kind? = some column.kind ∨
        operand = .null ∧ column.nullable = true := by
  rw [← Value.kind?_eq_none_iff]
  unfold accepts
  cases operand.kind? <;> simp

theorem checkOperand_eq_ok_iff :
    column.checkOperand operand = .ok () ↔
      operand.kind? = some column.kind ∨
        operand = .null ∧ column.nullable = true := by
  rw [← accepts_iff]
  unfold checkOperand
  split
  case isTrue accepted => simp [accepted]
  case isFalse refused => simp [refused]

/-- What is made behind both checks is made just of the operands that the
column takes. -/
theorem checked_eq_ok_iff {α : Type} {made result : α} :
    (do
        column.requirePlain
        column.checkOperand operand
        return made) = Except.ok result ↔
      column.Takes operand ∧ made = result := by
  simp only [bind_eq_ok_iff]
  constructor
  · rintro ⟨_, plain, _, typed, same⟩
    exact ⟨⟨requirePlain_eq_ok_iff.mp plain,
      checkOperand_eq_ok_iff.mp typed⟩, Except.ok.inj same⟩
  · rintro ⟨takes, rfl⟩
    exact ⟨(), requirePlain_eq_ok_iff.mpr takes.plain, (),
      checkOperand_eq_ok_iff.mpr takes.typed, rfl⟩

theorem compare_eq_ok_iff {comparison : Comparison} {predicate : Predicate} :
    column.compare comparison operand = .ok predicate ↔
      column.Takes operand ∧
        .compare column.table column.name comparison operand = predicate :=
  checked_eq_ok_iff

theorem assign_eq_ok_iff {operation : Arithmetic} {assignment : Assignment} :
    column.assign operation operand = .ok assignment ↔
      column.Takes operand ∧
        { table := column.table
          column := column.name
          operation := operation
          operand := operand } = assignment :=
  checked_eq_ok_iff

theorem inList_eq_ok_iff {predicate : Predicate} :
    column.inList operands = .ok predicate ↔
      operands ≠ [] ∧ (∀ operand ∈ operands, column.Takes operand) ∧
        .among column.table column.name operands = predicate := by
  unfold inList
  cases operands with
  | nil =>
      constructor
      · intro succeeded
        obtain ⟨_, _, refused⟩ := bind_eq_ok_iff.mp succeeded
        cases refused
      · rintro ⟨nonempty, _⟩
        exact (nonempty rfl).elim
  | cons first others =>
      simp only [List.isEmpty_cons, Bool.false_eq_true, if_false,
        bind_eq_ok_iff]
      constructor
      · rintro ⟨_, plain, _, checked, same⟩
        refine ⟨List.cons_ne_nil _ _, ?_, Except.ok.inj same⟩
        intro operand member
        exact ⟨requirePlain_eq_ok_iff.mp plain,
          checkOperand_eq_ok_iff.mp (forM_eq_ok_iff.mp checked operand member)⟩
      · rintro ⟨_, takes, rfl⟩
        have plain := (takes first List.mem_cons_self).plain
        refine ⟨(), requirePlain_eq_ok_iff.mpr plain, (), ?_, rfl⟩
        apply forM_eq_ok_iff.mpr
        intro operand member
        exact checkOperand_eq_ok_iff.mpr (takes operand member).typed

end Column

end TypedSql
