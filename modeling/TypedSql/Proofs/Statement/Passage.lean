import TypedSql.Expression.Assignment
import TypedSql.Proofs.Success
import TypedSql.Proofs.Text.Placeholder
import TypedSql.Statement.Slot

/-!
# Clauses with their operands in place

A clause has a text and, apart from it, the values for its placeholders.  Here
it also has a passage, in which every operand stands beside the column that is
compared with it or assigned from it, or behind the keyword that it belongs to.
The text with the values reads as the passage.
-/

namespace TypedSql

theorem Reads.combined {combinator left right : String}
    {data others : List Datum} {first second : Passage}
    (combinatorUnmarked : Unmarked combinator)
    (leftReads : Reads left data first)
    (rightReads : Reads right others second) :
    Reads ("(" ++ left ++ combinator ++ right ++ ")") (data ++ others)
      (Passage.ofText "(" ++ first ++ Passage.ofText combinator ++ second ++
        Passage.ofText ")") := by
  have opening : Unmarked "(" := by decide
  have closing : Unmarked ")" := by decide
  have whole :=
    ((((Reads.ofText opening).append leftReads).append
      (Reads.ofText combinatorUnmarked)).append rightReads).append
      (Reads.ofText closing)
  simpa only [List.nil_append, List.append_nil] using whole

namespace Predicate

/-- Names of the columns at the leaves. -/
def columns : Predicate → List String
  | .compare _ column _ _ => [column]
  | .among _ column _ => [column]
  | .both left right => left.columns ++ right.columns
  | .either left right => left.columns ++ right.columns

def passage : Predicate → Passage
  | .compare _ column comparison operand =>
      Passage.ofText (column ++ " " ++ relation comparison operand ++ " ") ++
        Passage.operand operand
  | .among _ column operands =>
      Passage.ofText (column ++ " IN (") ++
        Passage.join ", " (operands.map Passage.operand) ++
        Passage.ofText ")"
  | .both left right =>
      Passage.ofText "(" ++ left.passage ++ Passage.ofText " AND " ++
        right.passage ++ Passage.ofText ")"
  | .either left right =>
      Passage.ofText "(" ++ left.passage ++ Passage.ofText " OR " ++
        right.passage ++ Passage.ofText ")"

theorem unmarked_relation (comparison : Comparison) (operand : Value) :
    Unmarked (relation comparison operand) := by
  unfold relation
  cases comparison <;> cases operand.isNull <;> decide

theorem reads (predicate : Predicate)
    (unmarked : ∀ name ∈ predicate.columns, Unmarked name) :
    Reads predicate.sql (predicate.operands.map Value.toDatum)
      predicate.passage := by
  induction predicate with
  | compare table column comparison operand =>
      have columnUnmarked := unmarked column (by simp [columns])
      have textUnmarked :
          Unmarked (column ++ " " ++ relation comparison operand ++ " ") := by
        simp only [unmarked_append]
        exact ⟨⟨⟨columnUnmarked, by decide⟩, unmarked_relation _ _⟩,
          by decide⟩
      have whole := (Reads.ofText textUnmarked).append (Reads.mark operand)
      rw [String.append_assoc] at whole
      exact whole
  | among table column operands =>
      have columnUnmarked := unmarked column (by simp [columns])
      have opening : Unmarked (column ++ " IN (") := by
        simp only [unmarked_append]
        exact ⟨columnUnmarked, by decide⟩
      have marks : Reads (", ".intercalate (operands.map fun _ => "?"))
          (operands.flatMap fun operand => [operand.toDatum])
          (Passage.join ", " (operands.map Passage.operand)) :=
        Reads.join (by decide) fun operand _ => Reads.mark operand
      rw [← List.map_eq_flatMap] at marks
      have closing : Unmarked ")" := by decide
      have whole :=
        ((Reads.ofText opening).append marks).append (Reads.ofText closing)
      rw [List.nil_append, List.append_nil] at whole
      exact whole
  | both left right leftInduction rightInduction =>
      have leftReads := leftInduction (by
        intro name member
        exact unmarked name (by simp [columns, member]))
      have rightReads := rightInduction (by
        intro name member
        exact unmarked name (by simp [columns, member]))
      rw [operands, List.map_append]
      exact Reads.combined (by decide) leftReads rightReads
  | either left right leftInduction rightInduction =>
      have leftReads := leftInduction (by
        intro name member
        exact unmarked name (by simp [columns, member]))
      have rightReads := rightInduction (by
        intro name member
        exact unmarked name (by simp [columns, member]))
      rw [operands, List.map_append]
      exact Reads.combined (by decide) leftReads rightReads

end Predicate

namespace Assignment

def passage (assignment : Assignment) : Passage :=
  Passage.ofText
      (assignment.column ++ " = " ++ assignment.column ++ " " ++
        assignment.operation.symbol ++ " ") ++
    Passage.operand assignment.operand

theorem reads {assignment : Assignment}
    (unmarked : Unmarked assignment.column) :
    Reads assignment.render.sql [assignment.operand.toDatum]
      assignment.passage := by
  have operation : Unmarked assignment.operation.symbol := by
    cases assignment.operation <;> decide
  have textUnmarked :
      Unmarked
        (assignment.column ++ " = " ++ assignment.column ++ " " ++
          assignment.operation.symbol ++ " ") := by
    simp only [unmarked_append]
    exact ⟨⟨⟨⟨⟨unmarked, by decide⟩, unmarked⟩, by decide⟩, operation⟩,
      by decide⟩
  have whole :=
    (Reads.ofText textUnmarked).append (Reads.mark assignment.operand)
  rw [String.append_assoc] at whole
  exact whole

end Assignment

theorem Column.unmarked_render {column : Column}
    (unmarked : Unmarked column.name) : Unmarked column.render := by
  unfold render
  split
  case h_1 aggregate _ =>
    have keyword : Unmarked aggregate.keyword := by
      cases aggregate <;> decide
    simp only [unmarked_append]
    exact ⟨⟨⟨keyword, by decide⟩, unmarked⟩, by decide⟩
  case h_2 => exact unmarked

/-- A list that is written has passed all checks. -/
theorem ColumnList.of_write_eq_ok {table list : String}
    {columns : List Column} {term : Column → String}
    (written : write table columns term = .ok list) :
    columns ≠ [] ∧ columns.forM Column.validate = .ok () ∧
      checkTable table columns = .ok () ∧
      list = ", ".intercalate (columns.map term) := by
  unfold write at written
  cases columns with
  | nil => cases written
  | cons first others =>
      simp only [List.isEmpty_cons, Bool.false_eq_true, if_false,
        bind_eq_ok_iff] at written
      obtain ⟨⟨⟩, valid, ⟨⟩, owned, same⟩ := written
      exact ⟨List.cons_ne_nil _ _, valid, owned, (Except.ok.inj same).symm⟩

theorem ColumnList.eq_of_write_eq_ok {table list : String}
    {columns : List Column} {term : Column → String}
    (written : write table columns term = .ok list) :
    list = ", ".intercalate (columns.map term) :=
  (of_write_eq_ok written).2.2.2

theorem ColumnList.unmarked_write {table list : String}
    {columns : List Column} {term : Column → String}
    (written : write table columns term = .ok list)
    (unmarked : ∀ column ∈ columns, Unmarked (term column)) :
    Unmarked list := by
  rw [eq_of_write_eq_ok written]
  apply unmarked_intercalate (by decide)
  intro text member
  obtain ⟨column, columnMember, rfl⟩ := List.mem_map.mp member
  exact unmarked column columnMember

/-- The columns of a list as they are written, with a keyword before and an
ending behind them. -/
def Passage.ofColumns (clause : Clause) (columns : List Column)
    (term : Column → String) (ending : String) : Passage :=
  Passage.ofText
    (clause.keyword ++ " " ++ ", ".intercalate (columns.map term) ++ ending)

namespace Slot

/-- The slot fills the clause, and reads as its passage. -/
def ReadsAs (slot : Slot) (place : Clause × Passage) : Prop :=
  slot.clause = place.1 ∧
    Reads slot.sql (slot.values.map Value.toDatum) place.2

theorem readsAs_ofText (clause : Clause) {text : String}
    (unmarked : Unmarked text) :
    (Slot.ofText clause text).ReadsAs (clause, Passage.ofText text) :=
  ⟨rfl, Reads.ofText unmarked⟩

theorem of_ofColumns_eq_ok {table ending : String} {clause : Clause}
    {columns : List Column} {term : Column → String} {slot : Slot}
    (filled : Slot.ofColumns table clause columns term ending = .ok slot) :
    ∃ list, ColumnList.write table columns term = .ok list ∧
      slot = Slot.ofText clause (clause.keyword ++ " " ++ list ++ ending) := by
  obtain ⟨list, written, same⟩ := bind_eq_ok_iff.mp filled
  exact ⟨list, written, (Except.ok.inj same).symm⟩

theorem of_ofPredicate_eq_ok {table : String} {predicate : Predicate}
    {slot : Slot} (filled : Slot.ofPredicate table predicate = .ok slot) :
    predicate.checkTable table = .ok () ∧
      slot =
        { clause := .filter
          sql := "WHERE " ++ predicate.sql
          values := predicate.operands } := by
  obtain ⟨⟨⟩, checked, same⟩ := bind_eq_ok_iff.mp filled
  exact ⟨checked, (Except.ok.inj same).symm⟩

theorem readsAs_ofColumns {table ending : String} {clause : Clause}
    {columns : List Column} {term : Column → String} {slot : Slot}
    (filled : Slot.ofColumns table clause columns term ending = .ok slot)
    (unmarked : ∀ name ∈ columns.map (·.name), Unmarked name)
    (terms : ∀ {column : Column}, Unmarked column.name →
      Unmarked (term column))
    (endingUnmarked : Unmarked ending) :
    slot.ReadsAs (clause, Passage.ofColumns clause columns term ending) := by
  obtain ⟨list, written, rfl⟩ := of_ofColumns_eq_ok filled
  have keyword : Unmarked clause.keyword := by cases clause <;> decide
  have listUnmarked : Unmarked list := by
    apply ColumnList.unmarked_write written
    intro column member
    exact terms (unmarked _ (List.mem_map.mpr ⟨column, member, rfl⟩))
  have whole : Unmarked (clause.keyword ++ " " ++ list ++ ending) := by
    simp only [unmarked_append]
    exact ⟨⟨⟨keyword, by decide⟩, listUnmarked⟩, endingUnmarked⟩
  have reads := readsAs_ofText clause whole
  rw [ColumnList.eq_of_write_eq_ok written] at reads ⊢
  exact reads

theorem readsAs_ofPredicate {table : String} {predicate : Predicate}
    {slot : Slot} (filled : Slot.ofPredicate table predicate = .ok slot)
    (unmarked : ∀ name ∈ predicate.columns, Unmarked name) :
    slot.ReadsAs
      (.filter, Passage.ofText "WHERE " ++ predicate.passage) := by
  obtain ⟨-, rfl⟩ := of_ofPredicate_eq_ok filled
  have keyword : Unmarked "WHERE " := by decide
  exact ⟨rfl, (Reads.ofText keyword).append (predicate.reads unmarked)⟩

theorem readsAs_limit (count : Int64) :
    (Slot.limit count).ReadsAs
      (.limit,
        Passage.ofText "LIMIT " ++ Passage.operand (.integer count)) := by
  have keyword : Unmarked "LIMIT " := by decide
  exact ⟨rfl, (Reads.ofText keyword).append (Reads.mark (.integer count))⟩

theorem readsAs_offset (count : Int64) :
    (Slot.offset count).ReadsAs
      (.offset,
        Passage.ofText "OFFSET " ++ Passage.operand (.integer count)) := by
  have keyword : Unmarked "OFFSET " := by decide
  exact ⟨rfl, (Reads.ofText keyword).append (Reads.mark (.integer count))⟩

end Slot

end TypedSql
