import TypedSql.Proofs.Statement.Builder
import TypedSql.Proofs.Statement.Passage
import TypedSql.Proofs.Text.Wording

/-!
# Wordings of clauses

The clauses that mention columns, with the names of the columns marked.  In
clauses names are bare words, set apart from everything around them.
-/

namespace TypedSql

namespace Predicate

/-- A condition with its names marked. -/
def wording : Predicate → Wording
  | .compare _ column comparison operand =>
      [.mention column, .fixed (" " ++ relation comparison operand ++ " ?")]
  | .among _ column operands =>
      .mention column :: .fixed " IN (" ::
        (Wording.join ", " (operands.map fun _ => [.fixed "?"]) ++
          [.fixed ")"])
  | .both left right =>
      .fixed "(" :: (left.wording ++
        .fixed " AND " :: (right.wording ++ [.fixed ")"]))
  | .either left right =>
      .fixed "(" :: (left.wording ++
        .fixed " OR " :: (right.wording ++ [.fixed ")"]))

theorem spell_wording (predicate : Predicate) :
    predicate.wording.spell id = predicate.sql := by
  induction predicate with
  | compare table column comparison operand =>
      simp [wording, sql, Piece.spell, String.append_assoc]
  | among table column operands =>
      simp [wording, sql, Piece.spell, String.append_assoc]
  | both left right leftInduction rightInduction =>
      simp [wording, sql, Piece.spell, leftInduction, rightInduction,
        String.append_assoc]
  | either left right leftInduction rightInduction =>
      simp [wording, sql, Piece.spell, leftInduction, rightInduction,
        String.append_assoc]

theorem names_wording (predicate : Predicate) :
    predicate.wording.names = predicate.columns := by
  induction predicate with
  | compare table column comparison operand => rfl
  | among table column operands =>
      simp [wording, columns]
  | both left right leftInduction rightInduction =>
      simp [wording, columns, leftInduction, rightInduction]
  | either left right leftInduction rightInduction =>
      simp [wording, columns, leftInduction, rightInduction]

theorem spaced_marks {α : Type} (items : List α) :
    (Wording.join ", " (items.map fun _ => [.fixed "?"])).Spaced := by
  apply Wording.Spaced.join (by decide)
  intro mark member
  obtain ⟨item, -, rfl⟩ := List.mem_map.mp member
  exact .fixed (by decide)

theorem spaced_wording (predicate : Predicate) :
    predicate.wording.Spaced := by
  induction predicate with
  | compare table column comparison operand =>
      have ends :
          Wording.Ends (" " ++ relation comparison operand ++ " ?") := by
        unfold relation
        cases comparison <;> cases operand.isNull <;> decide
      exact (Wording.Spaced.mention column).ended ends
  | among table column operands =>
      apply (Wording.Spaced.mention column).separated (by decide)
      exact (spaced_marks operands).ended (by decide)
  | both left right leftInduction rightInduction =>
      apply Wording.Spaced.behind (by decide)
      apply leftInduction.separated (by decide)
      exact rightInduction.ended (by decide)
  | either left right leftInduction rightInduction =>
      apply Wording.Spaced.behind (by decide)
      apply leftInduction.separated (by decide)
      exact rightInduction.ended (by decide)

end Predicate

namespace Assignment

def wording (assignment : Assignment) : Wording :=
  [.mention assignment.column, .fixed " = ", .mention assignment.column,
    .fixed (" " ++ assignment.operation.symbol ++ " ?")]

theorem spell_wording (assignment : Assignment) :
    assignment.wording.spell id = assignment.render.sql := by
  simp [wording, render, Piece.spell, String.append_assoc]

theorem spaced_wording (assignment : Assignment) :
    assignment.wording.Spaced := by
  have ends :
      Wording.Ends (" " ++ assignment.operation.symbol ++ " ?") := by
    cases assignment.operation <;> decide
  apply (Wording.Spaced.mention assignment.column).separated (by decide)
  exact (Wording.Spaced.mention assignment.column).ended ends

end Assignment

namespace Column

/-- A column as written in a select list, with its name marked. -/
def wording (column : Column) : Wording :=
  match column.aggregate? with
  | some aggregate =>
      [.fixed (aggregate.keyword ++ "("), .mention column.name, .fixed ")"]
  | none => [.mention column.name]

theorem spell_wording (column : Column) :
    column.wording.spell id = column.render := by
  unfold wording render
  cases column.aggregate? with
  | some aggregate => simp [Piece.spell, String.append_assoc]
  | none => simp [Piece.spell]

theorem names_wording (column : Column) :
    column.wording.names = [column.name] := by
  unfold wording
  cases column.aggregate? <;> rfl

theorem spaced_wording (column : Column) : column.wording.Spaced := by
  unfold wording
  cases column.aggregate? with
  | some aggregate =>
      have opens : Wording.Settled (aggregate.keyword ++ "(") := by
        cases aggregate <;> decide
      apply Wording.Spaced.behind opens
      exact (Wording.Spaced.mention column.name).ended (by decide)
  | none => exact .mention column.name

end Column

/-- A clause with its text, in which names are bare. -/
def Wording.bare (place : Clause × Wording) : Clause × String :=
  (place.1, place.2.spell id)

def Direction.wording (direction : Direction) : Wording :=
  [.fixed (" " ++ direction.keyword)]

namespace Wording

/-- A clause that lists columns, with what ends it. -/
def ofColumns (clause : Clause) (columns : List Column)
    (term : Column → Wording) (ending : Wording) : Wording :=
  .fixed (clause.keyword ++ " ") ::
    (join ", " (columns.map term) ++ ending)

/-- A column by its bare name. -/
def ofName (column : Column) : Wording :=
  [.mention column.name]

theorem spell_ofName (column : Column) :
    (ofName column).spell id = column.name := by
  simp [ofName, Piece.spell]

theorem spaced_ofName (column : Column) : (ofName column).Spaced :=
  .mention column.name

theorem spaced_ofColumns (clause : Clause) (columns : List Column)
    {term : Column → Wording} (terms : ∀ column, (term column).Spaced)
    {ending : Wording} (ends : ending.Spaced) (apart : ending.Apart) :
    (ofColumns clause columns term ending).Spaced := by
  have opens : Settled (clause.keyword ++ " ") := by
    cases clause <;> decide
  apply Spaced.behind opens
  refine Spaced.append ?_ ends apart
  apply Spaced.join (by decide)
  intro wording member
  obtain ⟨column, -, rfl⟩ := List.mem_map.mp member
  exact terms column

theorem names_ofColumns (clause : Clause) (columns : List Column)
    {term : Column → Wording}
    (terms : ∀ column, (term column).names = [column.name])
    {ending : Wording} (endsUnnamed : ending.names = []) :
    (ofColumns clause columns term ending).names =
      columns.map (·.name) := by
  simp [ofColumns, endsUnnamed, List.flatMap_map, terms,
    ← List.map_eq_flatMap]

end Wording

theorem Direction.spell_wording (direction : Direction) :
    direction.wording.spell id = " " ++ direction.keyword := by
  simp [wording, Piece.spell]

theorem Direction.spaced_wording (direction : Direction) :
    direction.wording.Spaced ∧ direction.wording.Apart := by
  have ends : Wording.Ends (" " ++ direction.keyword) := by
    cases direction <;> decide
  exact ⟨.fixed ends.1, ends.2⟩

theorem Slot.entry_ofColumns {table ending : String} {clause : Clause}
    {columns : List Column} {term : Column → String} {slot : Slot}
    (filled : ofColumns table clause columns term ending = .ok slot)
    {termWording : Column → Wording}
    (terms : ∀ column, (termWording column).spell id = term column)
    {endingWording : Wording} (ends : endingWording.spell id = ending) :
    slot.entry =
      Wording.bare
        (clause, Wording.ofColumns clause columns termWording
          endingWording) := by
  obtain ⟨list, written, rfl⟩ := of_ofColumns_eq_ok filled
  rw [ColumnList.eq_of_write_eq_ok written]
  simp [entry, ofText, Wording.bare, Wording.ofColumns, Piece.spell, terms,
    ends, Function.comp_def, String.append_assoc]

theorem Slot.entry_ofPredicate {table : String} {predicate : Predicate}
    {slot : Slot} (filled : ofPredicate table predicate = .ok slot) :
    slot.entry =
      Wording.bare (.filter, .fixed "WHERE " :: predicate.wording) := by
  obtain ⟨-, rfl⟩ := of_ofPredicate_eq_ok filled
  simp [entry, Wording.bare, Piece.spell, predicate.spell_wording]

end TypedSql
