import TypedSql.Proofs.Expression.ColumnText
import TypedSql.Proofs.Statement.Listing

/-!
# Aggregates in lists

A column with an aggregate may be selected, ordered or grouped by.  Only what a
select returns, and what it orders by, is written with the aggregates, though.
In every other list bare names stand in their place, and nothing is refused.
-/

namespace TypedSql

namespace Column

/-- The column without its aggregates. -/
def plain (column : Column) : Column :=
  { column with aggregation := .plain }

/-- A list of columns is the list of their names only without aggregates. -/
theorem intercalate_name_eq_iff {columns : List Column} :
    ", ".intercalate (columns.map name) =
        ", ".intercalate (columns.map render) ↔
      ∀ column ∈ columns, column.aggregate? = none := by
  have bare : columns.map name = (columns.map plain).map render := by
    rw [List.map_map]
    rfl
  have named : (columns.map plain).map name = columns.map name := by
    rw [List.map_map]
    rfl
  rw [bare, intercalate_render_eq_iff named, List.map_map, List.map_inj_left]
  exact forall₂_congr fun column member => eq_comm

end Column

namespace Listing

variable {listing : Listing} {term : Column → String}

theorem entry_eq_iff {columns : List Column} {other : Column → String} :
    { listing with columns := columns }.entry other = listing.entry term ↔
      ", ".intercalate (columns.map other) =
        ", ".intercalate (listing.columns.map term) := by
  constructor
  · intro same
    have sameList := (String.append_right_inj _).mp (congrArg Prod.snd same)
    exact (String.append_left_inj _).mp sameList
  · intro same
    simp only [entry, list, same]

/-- A list is written with its aggregates where they are kept, and elsewhere
only if there are none. -/
theorem entry_render_eq_iff {kind : StatementKind} :
    listing.entry Column.render = listing.entry (kind.term listing.clause) ↔
      kind.KeepsAggregates listing.clause ∨
        ∀ column ∈ listing.columns, column.aggregate? = none := by
  unfold StatementKind.term
  split
  case isTrue keeps => simp only [keeps, true_or]
  case isFalse loses =>
    simp only [loses, false_or]
    rw [← Column.intercalate_name_eq_iff, eq_comm]
    exact entry_eq_iff

/-- A list with the same names and other aggregates is written differently
where aggregates are kept, and elsewhere alike. -/
theorem entry_columns_eq_iff {kind : StatementKind} {columns : List Column}
    (named : columns.map Column.name = listing.columns.map Column.name) :
    { listing with columns := columns }.entry (kind.term listing.clause) =
        listing.entry (kind.term listing.clause) ↔
      kind.KeepsAggregates listing.clause →
        columns.map Column.aggregate? =
          listing.columns.map Column.aggregate? := by
  rw [entry_eq_iff]
  unfold StatementKind.term
  split
  case isTrue keeps =>
    simp only [keeps, forall_const]
    exact Column.intercalate_render_eq_iff named
  case isFalse loses =>
    simp only [loses, named, IsEmpty.forall_iff]

end Listing

namespace Draft

/-- A statement that is built writes each list in its own clause.  The list has
its aggregates, and differs from the same list with other aggregates, if the
clause keeps them; elsewhere they are dropped. -/
theorem aggregates_written_iff (draft : Draft) (query : Query)
    (built : draft.build = .ok query) :
    query.ConsistsOf draft.kind draft.statement.written ∧
      ∀ listing ∈ draft.listings,
        draft.entry listing ∈ draft.statement.written ∧
        (listing.entry Column.render ∈ draft.statement.written ↔
          draft.kind.KeepsAggregates listing.clause ∨
            ∀ column ∈ listing.columns, column.aggregate? = none) ∧
        ∀ columns : List Column,
          columns.map Column.name = listing.columns.map Column.name →
          (draft.entry { listing with columns := columns } ∈
              draft.statement.written ↔
            (draft.kind.KeepsAggregates listing.clause →
              columns.map Column.aggregate? =
                listing.columns.map Column.aggregate?)) := by
  have consists := consistsOf built
  refine ⟨consists, ?_⟩
  intro listing member
  obtain ⟨-, written⟩ := listing_written built member
  refine ⟨written, ?_, ?_⟩
  · rw [← Listing.entry_render_eq_iff]
    exact consists.mem_iff written
  · intro columns named
    rw [← Listing.entry_columns_eq_iff named]
    exact consists.mem_iff written

/-- The numbers of people by age, the most frequent age first. -/
theorem aggregates_written_people :
    let age : Column :=
      { table := "people"
        name := "age"
        kind := .integer
        nullable := false
        aggregation := .plain }
    let count := age.aggregated .count
    let draft := Draft.select (.columns [age, count])
      [.groupBy [age], .orderBy [count] .descending]
    let query : Query :=
      { sql :=
          "SELECT age, COUNT(age) FROM people GROUP BY age " ++
            "ORDER BY COUNT(age) DESC"
        parameters := [] }
    draft.build = .ok query ∧
      query.ConsistsOf .select draft.statement.written ∧
      ∀ listing ∈ draft.listings,
        listing.entry Column.render ∈ draft.statement.written := by
  intro age count draft query
  have built : draft.build = .ok query := eq_ok_of_toOption (by decide)
  obtain ⟨consists, lists⟩ := aggregates_written_iff draft query built
  refine ⟨built, consists, ?_⟩
  intro listing member
  apply (lists listing member).2.1.mpr
  revert listing
  decide

/-- Neither the order of an update nor a group refuses an aggregate or shows
it. -/
theorem aggregates_lost_people :
    let age : Column :=
      { table := "people"
        name := "age"
        kind := .integer
        nullable := false
        aggregation := .plain }
    let count := age.aggregated .count
    let raise : Assignment :=
      { table := "people"
        column := "age"
        operation := .add
        operand := .integer 1 }
    let ordered := Draft.update [raise] [.orderBy [count] .ascending]
    let grouped := Draft.select (.columns [age]) [.groupBy [count]]
    count.render = "COUNT(age)" ∧
      ordered.build =
        .ok
          { sql := "UPDATE people SET age = age + ? ORDER BY age ASC"
            parameters := [.integer 1] } ∧
      grouped.build =
        .ok
          { sql := "SELECT age FROM people GROUP BY age"
            parameters := [] } ∧
      ∀ draft ∈ [ordered, grouped],
        ¬∀ listing ∈ draft.listings,
          listing.entry Column.render ∈ draft.statement.written := by
  intro age count raise ordered grouped
  refine ⟨?_, eq_ok_of_toOption ?_, eq_ok_of_toOption ?_, ?_⟩
  · decide
  · decide
  · decide
  · decide

end Draft

end TypedSql
