import TypedSql.Proofs.Statement.Builder
import TypedSql.Proofs.Statement.Passage

/-!
# Rows read as records

A row is read as a record of an entity only where the statement returns whole
rows of that entity's table.  What the rows become and what the text says of
them are settled by different parts of a builder, which no chain of calls sets
at odds: as soon as columns are grouped or returned, rows are tuples.
-/

namespace TypedSql

/-- The text consists of clauses, each of which begins with its keyword.  They
come in the order of the kind of statement, and none comes twice. -/
structure Query.ConsistsOf (query : Query) (kind : StatementKind)
    (clauses : List (Clause × String)) : Prop where
  sql_eq : query.sql = " ".intercalate (clauses.map (·.2))
  worded : ∀ entry ∈ clauses,
    ∃ rest, entry.2 = entry.1.keyword ++ " " ++ rest
  ordered : (clauses.map (·.1)).Sublist kind.clauses

namespace Slot

/-- The slot fills a clause, and its text begins with the clause's keyword. -/
def Fills (slot : Slot) (clause : Clause) : Prop :=
  slot.clause = clause ∧ ∃ rest, slot.sql = clause.keyword ++ " " ++ rest

theorem Fills.worded {slot : Slot} {clause : Clause}
    (fills : slot.Fills clause) :
    ∃ rest, slot.entry.2 = slot.entry.1.keyword ++ " " ++ rest := by
  obtain ⟨rfl, worded⟩ := fills
  exact worded

theorem fills_ofText (clause : Clause) (rest : String) :
    (ofText clause (clause.keyword ++ " " ++ rest)).Fills clause :=
  ⟨rfl, rest, rfl⟩

theorem fills_ofColumns {table ending : String} {clause : Clause}
    {columns : List Column} {term : Column → String} {slot : Slot}
    (filled : ofColumns table clause columns term ending = .ok slot) :
    slot.Fills clause := by
  obtain ⟨list, -, rfl⟩ := of_ofColumns_eq_ok filled
  rw [String.append_assoc]
  exact fills_ofText clause (list ++ ending)

theorem fills_ofPredicate {table : String} {predicate : Predicate}
    {slot : Slot} (filled : ofPredicate table predicate = .ok slot) :
    slot.Fills .filter := by
  obtain ⟨-, rfl⟩ := of_ofPredicate_eq_ok filled
  exact ⟨rfl, predicate.sql, rfl⟩

end Slot

/-- The clause that a call adds. -/
def SelectCall.clause : SelectCall → Clause
  | .filter _ => .filter
  | .orderBy _ _ => .orderBy
  | .limit _ => .limit
  | .offset _ => .offset
  | .groupBy _ => .groupBy

def DeleteCall.clause : DeleteCall → Clause
  | .filter _ => .filter
  | .returning _ => .returning
  | .returningAll => .returning

theorem SelectCall.fills {table : String} {call : SelectCall} {slot : Slot}
    (filled : call.slot table = .ok slot) : slot.Fills call.clause := by
  cases call with
  | filter predicate => exact Slot.fills_ofPredicate filled
  | orderBy columns direction => exact Slot.fills_ofColumns filled
  | limit count =>
      cases filled
      exact ⟨rfl, "?", rfl⟩
  | offset count =>
      cases filled
      exact ⟨rfl, "?", rfl⟩
  | groupBy columns => exact Slot.fills_ofColumns filled

theorem DeleteCall.fills {table : String} {call : DeleteCall} {slot : Slot}
    (filled : call.slot table = .ok slot) : slot.Fills call.clause := by
  cases call with
  | filter predicate => exact Slot.fills_ofPredicate filled
  | returning columns => exact Slot.fills_ofColumns filled
  | returningAll =>
      cases filled
      exact Slot.fills_ofText .returning "*"

theorem StatementKind.placed?_clause {slots : List Slot} {slot : Slot}
    {clause : Clause}
    (placed : placed? Slot.clause Slot.unlimited slots clause = some slot) :
    slot.clause = clause := by
  unfold placed? at placed
  split at placed
  case h_1 found =>
    cases placed
    simpa using List.find?_some found
  case h_2 =>
    split at placed
    case isTrue unlimited =>
      cases placed
      exact unlimited.1.symm
    case isFalse => cases placed

/-- A walk meets the clauses in their order, and passes over those without a
slot. -/
theorem StatementKind.arrange_sublist (clauses : List Clause)
    (slots : List Slot) :
    ((clauses.filterMap (placed? Slot.clause Slot.unlimited slots)).map
      (·.clause)).Sublist clauses := by
  induction clauses with
  | nil => exact .slnil
  | cons clause clauses induction =>
      cases placed : placed? Slot.clause Slot.unlimited slots clause with
      | none =>
          rw [List.filterMap_cons_none placed]
          exact induction.cons clause
      | some slot =>
          rw [List.filterMap_cons_some placed, List.map_cons,
            placed?_clause placed]
          exact induction.cons_cons clause

namespace Statement

section

variable {statement : Statement} {Call : Type}
  {contribution : Call → Except Error Slot} {calls : List Call} {query : Query}

/-- Where a clause of a statement that is built comes from: the statement
began with it, a call added it, or it is the limit that an offset needs. -/
theorem mem_written (accepted : statement.Accepted)
    (built : (statement.addAll (calls.map contribution)).render = .ok query)
    {entry : Clause × String}
    (member : entry ∈ (statement.addAll (calls.map contribution)).written) :
    (∃ slot ∈ statement.slots, slot.entry = entry) ∨
      (∃ call ∈ calls, ∃ slot,
        contribution call = .ok slot ∧ slot.entry = entry) ∨
      entry = Slot.unlimited.entry := by
  obtain ⟨slots, contributed, taken⟩ := written_of_render_eq_ok accepted built
  rw [taken] at member
  obtain ⟨slot, slotMember, rfl⟩ := List.mem_map.mp member
  rcases StatementKind.mem_arrange slotMember with given | isUnlimited
  · rcases List.mem_append.mp given with initial | added
    · exact .inl ⟨slot, initial, rfl⟩
    · have contributes : .ok slot ∈ calls.map contribution := by
        rw [contributed]
        exact List.mem_map.mpr ⟨slot, added, rfl⟩
      obtain ⟨call, callMember, filled⟩ := List.mem_map.mp contributes
      exact .inr (.inl ⟨call, callMember, slot, filled, rfl⟩)
  · rw [isUnlimited]
    exact .inr (.inr rfl)

/-- The text of a statement that is built consists of its clauses. -/
theorem consistsOf_written (accepted : statement.Accepted)
    (initial : ∀ slot ∈ statement.slots, ∃ clause, slot.Fills clause)
    {clauseOf : Call → Clause}
    (fills : ∀ {call slot}, contribution call = .ok slot →
      slot.Fills (clauseOf call))
    (built : (statement.addAll (calls.map contribution)).render = .ok query) :
    query.ConsistsOf statement.kind
      (statement.addAll (calls.map contribution)).written where
  sql_eq := sql_of_render_eq_ok (accepted.addAll _) built
  worded := by
    intro entry member
    rcases mem_written accepted built member with
      ⟨slot, given, rfl⟩ | ⟨call, -, slot, filled, rfl⟩ | isUnlimited
    · obtain ⟨clause, slotFills⟩ := initial slot given
      exact slotFills.worded
    · exact (fills filled).worded
    · rw [isUnlimited]
      exact ⟨"-1", rfl⟩
  ordered := by
    obtain ⟨slots, -, taken⟩ := written_of_render_eq_ok accepted built
    rw [taken, List.map_map]
    exact StatementKind.arrange_sublist _ _

/-- A statement that is built has been given at most one slot for a clause. -/
theorem count_clause_le_one (accepted : statement.Accepted)
    (clauseOf : Call → Clause)
    (fills : ∀ {call slot}, contribution call = .ok slot →
      slot.Fills (clauseOf call))
    (built : (statement.addAll (calls.map contribution)).render = .ok query)
    {clause : Clause} (member : clause ∈ statement.kind.clauses) :
    (calls.map clauseOf).count clause ≤ 1 := by
  obtain ⟨-, slots, contributed, whole⟩ :=
    addAll_of_render_eq_ok accepted built
  have sameClauses : slots.map (·.clause) = calls.map clauseOf :=
    map_of_contributed (fun filled => (fills filled).1) contributed
  have rendered := render_eq_assemble (accepted.addAll (calls.map contribution))
  rw [built, whole] at rendered
  have single := single_of_assemble_eq_ok rendered.symm clause member
  rw [List.map_append, sameClauses, List.count_append] at single
  omega

end

end Statement

/-- Rows are records after a chain of calls only if they were before it, and if
no call on the way has made them tuples. -/
theorem RowShape.of_foldl_eq_record {Call : Type}
    {next : RowShape → Call → RowShape} {keeps : Call → Prop}
    (step : ∀ {before call entity}, next before call = .record entity →
      before = .record entity ∧ keeps call)
    {initial : RowShape} {calls : List Call} {entity : Entity}
    (yields : calls.foldl next initial = .record entity) :
    initial = .record entity ∧ ∀ call ∈ calls, keeps call := by
  induction calls generalizing initial with
  | nil => exact ⟨yields, by simp⟩
  | cons call calls induction =>
      obtain ⟨first, others⟩ := induction yields
      obtain ⟨before, kept⟩ := step first
      exact ⟨before, List.forall_mem_cons.mpr ⟨kept, others⟩⟩

theorem RowShape.eq_tuple_of_ne_record {shape : RowShape}
    (noRecord : ∀ entity, shape ≠ .record entity) : shape = .tuple := by
  cases shape with
  | record entity => exact (noRecord entity rfl).elim
  | tuple => rfl

/-- Only a selection of records is read as records. -/
theorem Selection.eq_records_of_shape {selection : Selection} {entity : Entity}
    (yields : selection.shape = .record entity) :
    selection = .records entity := by
  cases selection with
  | records entity =>
      cases yields
      rfl
  | rows schema => cases yields
  | columns columns => cases yields

namespace Select

theorem shape_chain (select : Select) (calls : List SelectCall) :
    (select.chain calls).shape =
      calls.foldl SelectCall.shape select.shape :=
  (List.foldl_hom shape fun _ _ => rfl).symm

theorem of_shape_chain {select : Select} {calls : List SelectCall}
    {entity : Entity}
    (yields : (select.chain calls).shape = .record entity) :
    select.shape = .record entity ∧
      ∀ call ∈ calls, call.clause ≠ .groupBy := by
  rw [shape_chain] at yields
  apply RowShape.of_foldl_eq_record _ yields
  intro before call entity same
  cases call with
  | groupBy columns => cases same
  | _ => exact ⟨same, by simp [SelectCall.clause]⟩

theorem wholeTable_fills (table : String) :
    ∀ slot ∈ (wholeTable table).slots, ∃ clause, slot.Fills clause := by
  intro slot member
  rcases List.mem_pair.mp member with rfl | rfl
  · exact ⟨_, Slot.fills_ofText .select "*"⟩
  · exact ⟨_, Slot.fills_ofText .source table⟩

section

variable {entity : Entity} {calls : List SelectCall} {query : Query}

theorem written_records
    (built : ((ofSelection (.records entity)).chain calls).build = .ok query) :
    ∃ others,
      ((ofSelection (.records entity)).chain calls).statement.written =
        (.select, "SELECT *") :: (.source, "FROM " ++ entity.tableName) ::
          others := by
  rw [build, statement_chain] at built
  rw [statement_chain]
  obtain ⟨slots, -, taken⟩ :=
    Statement.written_of_render_eq_ok (accepted_ofSelection _) built
  -- The walk comes first to the slots that the select began with.
  exact ⟨_, taken⟩

theorem groupBy_not_mem_written
    (built : ((ofSelection (.records entity)).chain calls).build = .ok query)
    (ungrouped : ∀ call ∈ calls, call.clause ≠ .groupBy) :
    .groupBy ∉
      ((ofSelection (.records entity)).chain calls).statement.written.map
        (·.1) := by
  rw [build, statement_chain] at built
  rw [statement_chain]
  intro grouped
  obtain ⟨entry, member, isGroupBy⟩ := List.mem_map.mp grouped
  rcases Statement.mem_written (accepted_ofSelection _) built member with
    ⟨slot, given, rfl⟩ | ⟨call, called, slot, filled, rfl⟩ | isUnlimited
  · rcases List.mem_pair.mp given with rfl | rfl <;> cases isGroupBy
  · obtain ⟨fills, -⟩ := SelectCall.fills filled
    exact ungrouped call called (fills.symm.trans isGroupBy)
  · rw [isUnlimited] at isGroupBy
    cases isGroupBy

/-- Records are selected as all columns of their table, without groups. -/
theorem whole_rows {selection : Selection}
    (yields : ((ofSelection selection).chain calls).shape = .record entity)
    (built : ((ofSelection selection).chain calls).build = .ok query) :
    let statement := ((ofSelection selection).chain calls).statement
    query.ConsistsOf .select statement.written ∧
      ∃ others,
        statement.written =
            (.select, "SELECT *") :: (.source, "FROM " ++ entity.tableName) ::
              others ∧
          .groupBy ∉ others.map (·.1) := by
  obtain ⟨shape, ungrouped⟩ := of_shape_chain yields
  cases Selection.eq_records_of_shape shape
  obtain ⟨others, begins⟩ := written_records built
  have absent := groupBy_not_mem_written built ungrouped
  rw [begins, List.map_cons, List.map_cons] at absent
  refine ⟨?_, others, begins, ?_⟩
  · rw [build, statement_chain] at built
    rw [statement_chain]
    exact Statement.consistsOf_written (accepted_ofSelection (.records entity))
      (wholeTable_fills _) SelectCall.fills built
  · intro grouped
    exact absent (List.mem_cons_of_mem _ (List.mem_cons_of_mem _ grouped))

end

/-- Grouped rows are tuples, and stay so. -/
theorem shape_of_groupBy (select : Select) (columns : List Column)
    (earlier later : List SelectCall) :
    (select.chain (earlier ++ .groupBy columns :: later)).shape = .tuple := by
  apply RowShape.eq_tuple_of_ne_record
  intro entity yields
  obtain ⟨-, ungrouped⟩ := of_shape_chain yields
  exact ungrouped (.groupBy columns) (by simp) rfl

end Select

namespace Delete

theorem shape_chain (delete : Delete) (calls : List DeleteCall) :
    (delete.chain calls).shape =
      calls.foldl DeleteCall.shape delete.shape :=
  (List.foldl_hom shape fun _ _ => rfl).symm

theorem of_shape_chain {delete : Delete} {calls : List DeleteCall}
    {entity : Entity}
    (yields : (delete.chain calls).shape = .record entity) :
    delete.shape = .record entity ∧
      ∀ call ∈ calls, ∀ columns, call ≠ .returning columns := by
  rw [shape_chain] at yields
  apply RowShape.of_foldl_eq_record _ yields
  intro before call entity same
  cases call with
  | returning columns => cases same
  | _ => exact ⟨same, by simp⟩

theorem wholeTable_fills (table : String) :
    ∀ slot ∈ (wholeTable table).slots, ∃ clause, slot.Fills clause := by
  intro slot member
  cases List.mem_singleton.mp member
  exact ⟨.delete, rfl, "FROM " ++ table, by rw [← String.append_assoc]; rfl⟩

section

variable {entity : Entity} {calls : List DeleteCall} {query : Query}

theorem written_records
    (built : ((ofSelection (.records entity)).chain calls).build = .ok query) :
    ∃ others,
      ((ofSelection (.records entity)).chain calls).statement.written =
        (.delete, "DELETE FROM " ++ entity.tableName) :: others := by
  rw [build, statement_chain] at built
  rw [statement_chain]
  obtain ⟨slots, -, taken⟩ :=
    Statement.written_of_render_eq_ok (accepted_ofSelection _) built
  exact ⟨_, taken⟩

theorem text_eq_returningAll
    (built : ((ofSelection (.records entity)).chain calls).build = .ok query)
    (unlisted : ∀ call ∈ calls, ∀ columns, call ≠ .returning columns)
    {text : String}
    (member : (.returning, text) ∈
      ((ofSelection (.records entity)).chain calls).statement.written) :
    text = "RETURNING *" := by
  rw [build, statement_chain] at built
  rw [statement_chain] at member
  rcases Statement.mem_written (accepted_ofSelection _) built member with
    ⟨slot, given, isReturning⟩ | ⟨call, called, slot, filled, isReturning⟩ |
      isUnlimited
  · cases List.mem_singleton.mp given
    cases isReturning
  · obtain ⟨fills, -⟩ := DeleteCall.fills filled
    obtain ⟨isClause, rfl⟩ := Prod.mk.inj isReturning
    rw [fills] at isClause
    cases call with
    | filter predicate => cases isClause
    | returning columns => exact (unlisted _ called columns rfl).elim
    | returningAll =>
        cases filled
        rfl
  · cases isUnlimited

/-- Records are deleted from their table, and returned as whole rows if at
all. -/
theorem whole_rows {selection : Selection}
    (yields : ((ofSelection selection).chain calls).shape = .record entity)
    (built : ((ofSelection selection).chain calls).build = .ok query) :
    let statement := ((ofSelection selection).chain calls).statement
    query.ConsistsOf .delete statement.written ∧
      ∃ others,
        statement.written =
            (.delete, "DELETE FROM " ++ entity.tableName) :: others ∧
          ∀ text, (.returning, text) ∈ others → text = "RETURNING *" := by
  obtain ⟨shape, unlisted⟩ := of_shape_chain yields
  cases Selection.eq_records_of_shape shape
  obtain ⟨others, begins⟩ := written_records built
  refine ⟨?_, others, begins, ?_⟩
  · rw [build, statement_chain] at built
    rw [statement_chain]
    exact Statement.consistsOf_written (accepted_ofSelection (.records entity))
      (wholeTable_fills _) DeleteCall.fills built
  · intro text later
    apply text_eq_returningAll built unlisted
    rw [begins]
    exact List.mem_cons_of_mem _ later

end

/-- Columns and whole rows are not returned together. -/
theorem error_of_both_returned {selection : Selection} {columns : List Column}
    {earlier later : List DeleteCall} (all : .returningAll ∈ later) :
    ∃ error,
      ((ofSelection selection).chain
        (earlier ++ .returning columns :: later)).build = .error error := by
  cases built : ((ofSelection selection).chain
      (earlier ++ .returning columns :: later)).build with
  | error error => exact ⟨error, rfl⟩
  | ok query =>
      rw [build, statement_chain] at built
      have returns :
          .returning ∈ (ofSelection selection).statement.kind.clauses := by
        rw [kind_ofSelection]
        decide
      have single :=
        Statement.count_clause_le_one (accepted_ofSelection selection)
          DeleteCall.clause DeleteCall.fills built returns
      have listed : 1 ≤ (later.map DeleteCall.clause).count .returning :=
        List.one_le_count_iff.mpr
          (List.mem_map.mpr ⟨.returningAll, all, rfl⟩)
      have fills : (DeleteCall.returning columns).clause = .returning := rfl
      simp only [List.map_append, List.map_cons, fills, List.count_append,
        List.count_cons_self] at single
      omega

/-- Returned columns are tuples, and stay so. -/
theorem shape_of_returning (delete : Delete) (columns : List Column)
    (earlier later : List DeleteCall) :
    (delete.chain (earlier ++ .returning columns :: later)).shape =
      .tuple := by
  apply RowShape.eq_tuple_of_ne_record
  intro entity yields
  obtain ⟨-, unlisted⟩ := of_shape_chain yields
  exact unlisted (.returning columns) (by simp) columns rfl

end Delete

/-- Rows become records only of the table that the statement names, and only as
whole rows.  Once columns are grouped or returned they are tuples for good, and
whole rows cannot be returned beside them. -/
theorem records_of_whole_rows :
    (∀ (selection : Selection) (calls : List SelectCall) (entity : Entity)
      (query : Query),
      let select := (Select.ofSelection selection).chain calls
      select.shape = .record entity → select.build = .ok query →
        query.ConsistsOf .select select.statement.written ∧
          ∃ others,
            select.statement.written =
                (.select, "SELECT *") ::
                  (.source, "FROM " ++ entity.tableName) :: others ∧
              .groupBy ∉ others.map (·.1)) ∧
    (∀ (selection : Selection) (calls : List DeleteCall) (entity : Entity)
      (query : Query),
      let delete := (Delete.ofSelection selection).chain calls
      delete.shape = .record entity → delete.build = .ok query →
        query.ConsistsOf .delete delete.statement.written ∧
          ∃ others,
            delete.statement.written =
                (.delete, "DELETE FROM " ++ entity.tableName) :: others ∧
              ∀ text, (.returning, text) ∈ others → text = "RETURNING *") ∧
    (∀ (selection : Selection) (columns : List Column)
      (earlier later : List SelectCall),
      ((Select.ofSelection selection).chain
        (earlier ++ .groupBy columns :: later)).shape = .tuple) ∧
    (∀ (selection : Selection) (columns : List Column)
      (earlier later : List DeleteCall),
      let delete :=
        (Delete.ofSelection selection).chain
          (earlier ++ .returning columns :: later)
      delete.shape = .tuple ∧
        (.returningAll ∈ later → ∃ error, delete.build = .error error)) := by
  refine ⟨?_, ?_, ?_, ?_⟩
  · intro selection calls entity query select yields built
    exact Select.whole_rows yields built
  · intro selection calls entity query delete yields built
    exact Delete.whole_rows yields built
  · intro selection columns earlier later
    exact Select.shape_of_groupBy _ columns earlier later
  · intro selection columns earlier later delete
    exact ⟨Delete.shape_of_returning _ columns earlier later,
      Delete.error_of_both_returned⟩

/-- Conditions and bounds leave records as they are; listed columns do not. -/
theorem records_of_whole_rows_people :
    let people : Entity :=
      { name := "People"
        fields := [{ name := "age", type := .required .int64, isKey := false }]
        foreignKeys := [] }
    let adult : Predicate :=
      .compare people.tableName "age" .ge (.integer 18)
    let select := (Select.ofSelection (.records people)).chain
      [.offset 2, .filter adult]
    let delete := (Delete.ofSelection (.records people)).chain
      [.returningAll, .filter adult]
    (∃ query,
      select.build = .ok query ∧
        query.ConsistsOf .select select.statement.written) ∧
    (∃ query,
      delete.build = .ok query ∧
        query.ConsistsOf .delete delete.statement.written) ∧
    (∃ error,
      ((Delete.ofSelection (.records people)).chain
        [.filter adult, .returning people.schema.columns,
          .returningAll]).build = .error error) := by
  dsimp only
  obtain ⟨selects, deletes, -, returned⟩ := records_of_whole_rows
  refine ⟨?_, ?_, ?_⟩
  · exact ⟨_, rfl, (selects _ _ _ _ rfl rfl).1⟩
  · exact ⟨_, rfl, (deletes _ _ _ _ rfl rfl).1⟩
  · exact (returned _ _ [.filter _] [.returningAll]).2 (by simp)

end TypedSql
