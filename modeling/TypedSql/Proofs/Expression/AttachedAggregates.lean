import Mathlib.Data.List.Basic
import TypedSql.Expression.Assignment
import TypedSql.Schema

/-!
# Attached aggregates

Aggregates may be attached to a column one after the other.  The first stays in
force: the column is written with it, and takes no operand any more.  The second
stays on record, and further ones leave no trace.
-/

namespace TypedSql

namespace Aggregation

theorem aggregate?_attach (aggregation : Aggregation) (next : Aggregate) :
    (aggregation.attach next).aggregate? =
      aggregation.aggregate?.or (some next) := by
  cases aggregation <;> rfl

/-- The aggregate in force is the first that was ever attached. -/
theorem aggregate?_foldl_attach (aggregation : Aggregation)
    (aggregates : List Aggregate) :
    (aggregates.foldl attach aggregation).aggregate? =
      aggregation.aggregate?.or aggregates.head? := by
  induction aggregates generalizing aggregation with
  | nil => exact Option.or_none.symm
  | cons first others induction =>
      rw [List.foldl_cons, induction, aggregate?_attach, Option.or_assoc,
        Option.some_or, List.head?_cons]

/-- Once two are on record, nothing changes any more. -/
theorem foldl_attach_nested (inner outer : Aggregate)
    (others : List Aggregate) :
    others.foldl attach (.nested inner outer) = .nested inner outer :=
  List.foldl_fixed' (fun _ => rfl) others

end Aggregation

namespace Column

/-- The column with aggregates attached one after the other. -/
def attaching (column : Column) (aggregates : List Aggregate) : Column :=
  aggregates.foldl aggregated column

theorem attaching_eq (column : Column) (aggregates : List Aggregate) :
    column.attaching aggregates =
      { column with
        aggregation :=
          aggregates.foldl Aggregation.attach column.aggregation } := by
  induction aggregates generalizing column with
  | nil => rfl
  | cons first others induction => exact induction (column.aggregated first)

theorem aggregate?_attaching (column : Column) (aggregates : List Aggregate) :
    (column.attaching aggregates).aggregate? =
      column.aggregate?.or aggregates.head? := by
  rw [attaching_eq]
  exact Aggregation.aggregate?_foldl_attach column.aggregation aggregates

/-- How a column is used once an aggregate is in force.  It is written with the
aggregate, and whatever operands it is given, only the aggregate is blamed. -/
structure ClosedBy (column : Column) (aggregate : Aggregate) (table : String)
    (name : String) : Prop where
  aggregate_eq : column.aggregate? = some aggregate
  render_eq : column.render = aggregate.keyword ++ "(" ++ name ++ ")"
  compare_eq : ∀ comparison operand,
    column.compare comparison operand =
      .error (.aggregatedOperand table name aggregate)
  inList_eq : ∀ operands,
    column.inList operands = .error (.aggregatedOperand table name aggregate)
  assign_eq : ∀ operation operand,
    column.assign operation operand =
      .error (.aggregatedOperand table name aggregate)

variable {column : Column} {aggregate inner outer : Aggregate}

theorem requirePlain_of_aggregate
    (attached : column.aggregate? = some aggregate) :
    column.requirePlain =
      .error (.aggregatedOperand column.table column.name aggregate) := by
  unfold requirePlain
  rw [attached]

theorem closedBy_of_aggregate (attached : column.aggregate? = some aggregate) :
    column.ClosedBy aggregate column.table column.name where
  aggregate_eq := attached
  render_eq := by
    unfold render
    rw [attached]
  compare_eq := by
    intro comparison operand
    unfold compare
    rw [requirePlain_of_aggregate attached]
    rfl
  inList_eq := by
    intro operands
    unfold inList
    rw [requirePlain_of_aggregate attached]
    rfl
  assign_eq := by
    intro operation operand
    unfold assign
    rw [requirePlain_of_aggregate attached]
    rfl

theorem closedBy_attaching (table : String) (field : Field)
    (first : Aggregate) (others : List Aggregate) :
    ((field.column table).attaching (first :: others)).ClosedBy first table
      field.name := by
  have attached :
      ((field.column table).attaching (first :: others)).aggregate? =
        some first := by
    rw [aggregate?_attaching]
    rfl
  have closed := closedBy_of_aggregate attached
  -- The table and the name of the column are those of the field.
  rw [attaching_eq] at closed ⊢
  exact closed

/-- The column of a field with two aggregates or more, of which these came
first. -/
def Nests (column : Column) (inner outer : Aggregate) : Prop :=
  ∃ (table : String) (field : Field) (others : List Aggregate),
    column = (field.column table).attaching (inner :: outer :: others)

theorem nests_iff :
    column.Nests inner outer ↔ column.aggregation = .nested inner outer := by
  constructor
  · rintro ⟨table, field, others, rfl⟩
    rw [attaching_eq]
    exact Aggregation.foldl_attach_nested inner outer others
  · intro nested
    let field : Field :=
      { name := column.name
        kind := column.kind
        nullable := column.nullable
        isKey := false }
    refine ⟨column.table, field, [], ?_⟩
    rw [attaching_eq]
    exact congrArg (fun aggregation => { column with aggregation }) nested

theorem validate_of_nests (nests : column.Nests inner outer) :
    column.validate =
      .error (.nestedAggregate column.table column.name inner outer) := by
  unfold validate
  rw [nests_iff.mp nests]

theorem validate_attaching (table : String) (field : Field)
    (first second : Aggregate) (others : List Aggregate) :
    ((field.column table).attaching (first :: second :: others)).validate =
      .error (.nestedAggregate table field.name first second) := by
  have nests :
      ((field.column table).attaching (first :: second :: others)).Nests first
        second := ⟨table, field, others, rfl⟩
  have invalid := validate_of_nests nests
  rw [attaching_eq] at invalid ⊢
  exact invalid

theorem validate_of_not_nests
    (notNested : ∀ inner outer, ¬column.Nests inner outer) :
    column.validate = .ok () := by
  unfold validate
  cases attached : column.aggregation with
  | plain => rfl
  | single aggregate => rfl
  | nested inner outer =>
      exact (notNested inner outer (nests_iff.mpr attached)).elim

end Column

end TypedSql
