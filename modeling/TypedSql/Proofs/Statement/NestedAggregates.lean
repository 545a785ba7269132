import TypedSql.Proofs.Connection.Confinement
import TypedSql.Proofs.Expression.AttachedAggregates
import TypedSql.Proofs.Statement.Listing

/-!
# Nested aggregates in lists

No clause lists a column with more than one aggregate.  The first such column of
a list is reported before any column of another table, and no other call makes
up for it.
-/

namespace TypedSql

namespace ColumnList

/-- A column in the list has more than one aggregate. -/
def Nested (columns : List Column) : Prop :=
  ∃ column ∈ columns, ∃ inner outer, column.Nests inner outer

/-- The error names the first column in the list that has more than one
aggregate, with the first two of its aggregates. -/
inductive BlamesFirst : List Column → Error → Prop where
  | here {column : Column} {inner outer : Aggregate} (others : List Column) :
      column.Nests inner outer →
      BlamesFirst (column :: others)
        (.nestedAggregate column.table column.name inner outer)
  | there {column : Column} {others : List Column} {error : Error} :
      (∀ inner outer, ¬column.Nests inner outer) →
      BlamesFirst others error →
      BlamesFirst (column :: others) error

theorem Nested.exists_blamesFirst {columns : List Column}
    (nested : Nested columns) : ∃ error, BlamesFirst columns error := by
  induction columns with
  | nil =>
      obtain ⟨column, member, -⟩ := nested
      cases member
  | cons first others induction =>
      by_cases nests : ∃ inner outer, first.Nests inner outer
      · obtain ⟨inner, outer, nests⟩ := nests
        exact ⟨_, .here others nests⟩
      · have notNested : ∀ inner outer, ¬first.Nests inner outer :=
          fun inner outer found => nests ⟨inner, outer, found⟩
        obtain ⟨column, member, found⟩ := nested
        have later : column ∈ others := by
          rcases List.mem_cons.mp member with rfl | later
          · exact (nests found).elim
          · exact later
        obtain ⟨error, blames⟩ := induction ⟨column, later, found⟩
        exact ⟨error, .there notNested blames⟩

namespace BlamesFirst

variable {columns : List Column} {error other : Error}

theorem forM_validate (blames : BlamesFirst columns error) :
    columns.forM Column.validate = .error error := by
  induction blames with
  | here others nests =>
      rw [List.forM, Column.validate_of_nests nests]
      rfl
  | there notNested blames induction =>
      rw [List.forM, Column.validate_of_not_nests notNested]
      exact induction

theorem unique (blames : BlamesFirst columns error)
    (blamesOther : BlamesFirst columns other) : error = other :=
  Except.error.inj (blames.forM_validate.symm.trans blamesOther.forM_validate)

/-- The tables of the columns are not looked at. -/
theorem write_eq (blames : BlamesFirst columns error) (table : String)
    (term : Column → String) : write table columns term = .error error := by
  have filled : columns.isEmpty = false := by
    cases blames <;> rfl
  unfold write
  rw [filled, blames.forM_validate]
  rfl

theorem slot_eq {listing : Listing} (blames : BlamesFirst listing.columns error)
    (kind : StatementKind) (table : String) :
    listing.slot kind table = .error error := by
  unfold Listing.slot Slot.ofColumns
  rw [blames.write_eq]
  rfl

end BlamesFirst

end ColumnList

/-- How a builder takes a list in which aggregates are nested.  Here `listing?`
is the list that a call asks for, and `recorded` the error recorded after a
chain of calls.  What has gone wrong before the list is reported.  Otherwise the
first of its columns with nested aggregates is, whatever follows. -/
def NestingLaw {Call : Type} (listing? : Call → Option Listing)
    (recorded : List Call → Option Error)
    (build : List Call → Except Error Query) : Prop :=
  ∀ (earlier later : List Call) (call : Call) (listing : Listing),
    listing? call = some listing → ColumnList.Nested listing.columns →
      ∃ error, ColumnList.BlamesFirst listing.columns error ∧
        build (earlier ++ call :: later) =
          .error ((recorded earlier).getD error)

theorem nestingLaw_of_contributions {Call : Type} {statement : Statement}
    (accepted : statement.Accepted) {contribution : Call → Except Error Slot}
    {listing? : Call → Option Listing} {kind : StatementKind} {table : String}
    (slots : ∀ {call listing}, listing? call = some listing →
      contribution call = listing.slot kind table) :
    NestingLaw listing?
      (fun calls => (statement.addAll (calls.map contribution)).error)
      (fun calls => (statement.addAll (calls.map contribution)).render) := by
  intro earlier later call listing lists nested
  obtain ⟨error, blames⟩ := nested.exists_blamesFirst
  have failure : contribution call = .error error := by
    rw [slots lists]
    exact blames.slot_eq kind table
  refine ⟨error, blames, ?_⟩
  simp only [List.map_append, List.map_cons, failure]
  exact Statement.render_addAll_of_failure accepted _ _ error

theorem Select.error_of_blamesFirst {columns : List Column} {error : Error}
    (blames : ColumnList.BlamesFirst columns error) :
    (ofSelection (.columns columns)).statement.error = some error := by
  cases columns with
  | nil => cases blames
  | cons first others =>
      have refused := blames.write_eq first.table Column.render
      simp only [ofSelection, projection_of_error refused]

/-- Attaching an aggregate to a column is final.  From then on the column is
written with it and takes no operand.  Any further aggregate makes the column
invalid, and no statement that lists it is built, whatever else is called. -/
theorem aggregates_terminal :
    (∀ (table : String) (field : Field) (first : Aggregate)
        (others : List Aggregate),
      ((field.column table).attaching (first :: others)).ClosedBy first table
        field.name) ∧
    (∀ (table : String) (field : Field) (first second : Aggregate)
        (others : List Aggregate),
      ((field.column table).attaching (first :: second :: others)).validate =
        .error (.nestedAggregate table field.name first second)) ∧
    (∀ (columns : List Column) (calls : List SelectCall),
      ColumnList.Nested columns →
        ∃ error, ColumnList.BlamesFirst columns error ∧
          ((Select.ofSelection (.columns columns)).chain calls).build =
            .error error) ∧
    (∀ selection : Selection,
      let chain := fun calls => (Select.ofSelection selection).chain calls
      NestingLaw SelectCall.listing?
        (fun calls => (chain calls).statement.error)
        (fun calls => (chain calls).build)) ∧
    (∀ assignments : List Assignment,
      let chain := fun calls => (Update.ofAssignments assignments).chain calls
      NestingLaw UpdateCall.listing?
        (fun calls => (chain calls).statement.error)
        (fun calls => (chain calls).build)) ∧
    (∀ (columns : List Column) (calls : List DeleteCall),
      ((Delete.ofSelection (.columns columns)).chain calls).build =
        .error .deletedColumns) ∧
    (∀ selection : Selection,
      let chain := fun calls => (Delete.ofSelection selection).chain calls
      NestingLaw DeleteCall.listing?
        (fun calls => (chain calls).statement.error)
        (fun calls => (chain calls).build)) := by
  refine ⟨Column.closedBy_attaching, Column.validate_attaching, ?_, ?_, ?_, ?_,
    ?_⟩
  · intro columns calls nested
    obtain ⟨error, blames⟩ := nested.exists_blamesFirst
    refine ⟨error, blames, ?_⟩
    rw [Select.build, Select.statement_chain]
    exact Statement.render_addAll_of_initial (Select.accepted_ofSelection _)
      (Select.error_of_blamesFirst blames) _
  · intro selection chain
    simp only [chain, Select.build, Select.statement_chain]
    exact nestingLaw_of_contributions (Select.accepted_ofSelection selection)
      (SelectCall.slot_of_listing _)
  · intro assignments chain
    simp only [chain, Update.build, Update.statement_chain]
    exact nestingLaw_of_contributions
      (Update.accepted_ofAssignments assignments)
      (UpdateCall.slot_of_listing _)
  · intro columns calls
    rw [Delete.build, Delete.statement_chain]
    exact Statement.render_addAll_of_initial (Delete.accepted_ofSelection _)
      rfl _
  · intro selection chain
    simp only [chain, Delete.build, Delete.statement_chain]
    exact nestingLaw_of_contributions (Delete.accepted_ofSelection selection)
      (DeleteCall.slot_of_listing _)

/-- A group by the sum of a count, listed behind a column of another table and
followed by an order by nothing. -/
theorem aggregates_terminal_people :
    let age := Field.ofKind "age" .integer
    let summed := (age.column "people").attaching [.count, .sum, .max]
    let listed := [age.column "dogs", summed]
    let people := Schema.empty "People"
    let refusal := Error.nestedAggregate "people" "age" .count .sum
    summed.inList [] = .error (.aggregatedOperand "people" "age" .count) ∧
      summed.validate = .error refusal ∧
      ColumnList.Nested listed ∧
      ((Select.ofSelection (.rows people)).chain
          [.limit 5, .groupBy listed, .orderBy [] .ascending]).build =
        .error refusal := by
  intro age summed listed people refusal
  obtain ⟨closed, invalid, -, selects, -⟩ := aggregates_terminal
  have nests : summed.Nests .count .sum := ⟨"people", age, [.max], rfl⟩
  have nested : ColumnList.Nested listed :=
    ⟨summed, by simp [listed], .count, .sum, nests⟩
  have plain : ∀ inner outer, ¬(age.column "dogs").Nests inner outer := by
    intro inner outer found
    cases Column.nests_iff.mp found
  have blames : ColumnList.BlamesFirst listed refusal :=
    .there plain (.here [] nests)
  obtain ⟨error, blamesSame, built⟩ :=
    selects (.rows people) [.limit 5] [.orderBy [] .ascending]
      (.groupBy listed) _ rfl nested
  refine ⟨?_, invalid "people" age .count .sum [.max], nested, ?_⟩
  · exact (closed "people" age .count [.sum, .max]).inList_eq []
  · rw [blames.unique blamesSame]
    exact built

end TypedSql
