import TypedSql.Proofs.Connection.Fetching
import TypedSql.Proofs.Statement.CallOrder
import TypedSql.Proofs.Statement.Passage

/-!
# Statements confined to their table

A statement belongs to one table.  A column of another table is found wherever
it is mentioned, at the call that mentions it, and no other call makes up for
it: the statement is not built, and nothing is asked of a connection.
-/

namespace TypedSql

namespace Predicate

/-- Tables of the columns at the leaves, from left to right. -/
def owners : Predicate → List String
  | .compare owner _ _ _ => [owner]
  | .among owner _ _ => [owner]
  | .both left right => left.owners ++ right.owners
  | .either left right => left.owners ++ right.owners

def Strays (table : String) (predicate : Predicate) : Prop :=
  ∃ owner ∈ predicate.owners, owner ≠ table

theorem checkTable_eq_find? (table : String) (predicate : Predicate) :
    predicate.checkTable table =
      match predicate.owners.find? (· ≠ table) with
      | some found => .error (.crossTable table found)
      | none => .ok () := by
  induction predicate with
  | compare owner column comparison operand =>
      by_cases own : owner = table <;> simp [checkTable, owners, own]
  | among owner column operands =>
      by_cases own : owner = table <;> simp [checkTable, owners, own]
  | both left right leftInduction rightInduction =>
      rw [checkTable, owners, List.find?_append, leftInduction, rightInduction]
      cases left.owners.find? (· ≠ table) <;> rfl
  | either left right leftInduction rightInduction =>
      rw [checkTable, owners, List.find?_append, leftInduction, rightInduction]
      cases left.owners.find? (· ≠ table) <;> rfl

end Predicate

/-- The list is empty, or a column in it belongs to another table. -/
def ColumnList.Strays (table : String) (columns : List Column) : Prop :=
  columns = [] ∨ ∃ column ∈ columns, column.table ≠ table

theorem ColumnList.not_strays_of_write {table list : String}
    {columns : List Column} {term : Column → String}
    (written : write table columns term = .ok list) :
    ¬Strays table columns := by
  obtain ⟨nonempty, -, owned, -⟩ := of_write_eq_ok written
  rintro (isNil | ⟨stray, member, elsewhere⟩)
  · exact nonempty isNil
  · unfold checkTable at owned
    cases found : columns.find? (·.table ≠ table) with
    | some column =>
        rw [found] at owned
        cases owned
    | none =>
        rw [List.find?_eq_none] at found
        exact found stray member (by simpa using elsewhere)

namespace Slot

theorem ofColumns_of_strays {table : String} {columns : List Column}
    (strays : ColumnList.Strays table columns) (clause : Clause)
    (term : Column → String) (ending : String) :
    ∃ error, ofColumns table clause columns term ending = .error error := by
  unfold ofColumns
  cases written : ColumnList.write table columns term with
  | ok list => exact (ColumnList.not_strays_of_write written strays).elim
  | error error => exact ⟨error, rfl⟩

theorem ofPredicate_of_stray {table found : String} {predicate : Predicate}
    (leftmost : predicate.owners.find? (· ≠ table) = some found) :
    ofPredicate table predicate = .error (.crossTable table found) := by
  unfold ofPredicate
  rw [Predicate.checkTable_eq_find?, leftmost]
  rfl

theorem ofPredicate_of_strays {table : String} {predicate : Predicate}
    (strays : predicate.Strays table) :
    ∃ error, ofPredicate table predicate = .error error := by
  cases leftmost : predicate.owners.find? (· ≠ table) with
  | some found => exact ⟨_, ofPredicate_of_stray leftmost⟩
  | none =>
      obtain ⟨owner, member, elsewhere⟩ := strays
      rw [List.find?_eq_none] at leftmost
      exact (leftmost owner member (by simpa using elsewhere)).elim

end Slot

namespace Statement

theorem addAll_error (statement : Statement)
    (slots : List (Except Error Slot)) :
    (statement.addAll slots).error =
      statement.error.or (slots.findSome? (fault? statement.kind)) := by
  rw [addAll_eq_run, run_eq, List.findSome?_map]
  rfl

/-- One contribution that is an error is enough for the statement not to be
built. -/
theorem exists_error_of_render_addAll {statement : Statement}
    (accepted : statement.Accepted) {contributions : List (Except Error Slot)}
    (refused : statement.error ≠ none ∨
      ∃ error, .error error ∈ contributions) :
    ∃ error, (statement.addAll contributions).render = .error error := by
  cases rendered : (statement.addAll contributions).render with
  | error error => exact ⟨error, rfl⟩
  | ok query =>
      obtain ⟨initial, slots, areSlots, -⟩ :=
        of_render_addAll_eq_ok accepted rendered
      rcases refused with recorded | ⟨error, member⟩
      · exact (recorded initial).elim
      · rw [areSlots] at member
        obtain ⟨slot, -, impossible⟩ := List.mem_map.mp member
        cases impossible

/-- A contribution that is an error decides, unless something has gone wrong
before it. -/
theorem render_addAll_of_failure {statement : Statement}
    (accepted : statement.Accepted)
    (earlier later : List (Except Error Slot)) (error : Error) :
    (statement.addAll (earlier ++ .error error :: later)).render =
      .error ((statement.addAll earlier).error.getD error) := by
  apply render_addAll_of_error accepted
  rw [List.findSome?_append, ← Option.or_assoc, ← addAll_error]
  cases (statement.addAll earlier).error <;> rfl

end Statement

/-- A statement that is not built: fetching from it fails with the same error,
and leaves every connection as it was. -/
structure Refused {Item : Type} (build : Except Error Query)
    (all : {σ : Type} → Connection σ → EngineM σ Error (List Item))
    (first : {σ : Type} → Connection σ → EngineM σ Error (Option Item))
    (error : Error) : Prop where
  build_eq : build = .error error
  all_eq : ∀ {σ : Type} (connection : Connection σ) (state : σ),
    (all connection).run.run state = (.error error, state)
  first_eq : ∀ {σ : Type} (connection : Connection σ) (state : σ),
    (first connection).run.run state = (.error error, state)

theorem refused_of_render {statement : Statement} {error : Error}
    (refused : statement.render = .error error) (shape : RowShape) :
    Refused statement.render (fun connection =>
        connection.fetchAll shape statement)
      (fun connection => connection.fetchFirst shape statement) error where
  build_eq := refused
  all_eq := by
    intro σ connection state
    rw [Connection.fetchAll_eq_fetch, refused]
    exact connection.fetch_run_of_refused error _ state
  first_eq := by
    intro σ connection state
    rw [Connection.fetchFirst_eq_fetch, refused]
    exact connection.fetch_run_of_refused error _ state

def Select.Refused (select : Select) (error : Error) : Prop :=
  TypedSql.Refused select.build select.all select.first error

def Update.Refused (update : Update) (error : Error) : Prop :=
  TypedSql.Refused update.build update.all update.first error

def Delete.Refused (delete : Delete) (error : Error) : Prop :=
  TypedSql.Refused delete.build delete.all delete.first error

/-- The table of a selection: that of the first column, where columns are
selected. -/
def Selection.table : Selection → String
  | .records entity => entity.tableName
  | .rows schema => schema.tableName
  | .columns listed => (listed.head?.map (·.table)).getD ""

/-- What is wrong with the columns of a select. -/
def Selection.Strays : Selection → Prop
  | .columns listed => ColumnList.Strays (table (.columns listed)) listed
  | _ => False

/-- A delete takes a whole table. -/
def Selection.IsProjection : Selection → Prop
  | .columns _ => True
  | _ => False

def SelectCall.Strays (table : String) : SelectCall → Prop
  | .filter predicate => predicate.Strays table
  | .orderBy columns _ => ColumnList.Strays table columns
  | .limit _ => False
  | .offset _ => False
  | .groupBy columns => ColumnList.Strays table columns

/-- The table of the first assignment. -/
def Update.table (assignments : List Assignment) : String :=
  (assignments.head?.map (·.table)).getD ""

/-- There is no assignment, or one to a column of another table. -/
def Update.Strays (assignments : List Assignment) : Prop :=
  assignments = [] ∨
    ∃ assignment ∈ assignments, assignment.table ≠ table assignments

def UpdateCall.Strays (table : String) : UpdateCall → Prop
  | .filter predicate => predicate.Strays table
  | .returning columns => ColumnList.Strays table columns
  | .returningAll => False
  | .orderBy columns _ => ColumnList.Strays table columns
  | .limit _ => False
  | .offset _ => False

def DeleteCall.Strays (table : String) : DeleteCall → Prop
  | .filter predicate => predicate.Strays table
  | .returning columns => ColumnList.Strays table columns
  | .returningAll => False

theorem SelectCall.slot_of_strays {table : String} {call : SelectCall}
    (strays : call.Strays table) : ∃ error, call.slot table = .error error := by
  cases call with
  | filter predicate => exact Slot.ofPredicate_of_strays strays
  | orderBy columns direction => exact Slot.ofColumns_of_strays strays _ _ _
  | limit => exact strays.elim
  | offset => exact strays.elim
  | groupBy columns => exact Slot.ofColumns_of_strays strays _ _ _

theorem UpdateCall.slot_of_strays {table : String} {call : UpdateCall}
    (strays : call.Strays table) : ∃ error, call.slot table = .error error := by
  cases call with
  | filter predicate => exact Slot.ofPredicate_of_strays strays
  | returning columns => exact Slot.ofColumns_of_strays strays _ _ _
  | returningAll => exact strays.elim
  | orderBy columns direction => exact Slot.ofColumns_of_strays strays _ _ _
  | limit => exact strays.elim
  | offset => exact strays.elim

theorem DeleteCall.slot_of_strays {table : String} {call : DeleteCall}
    (strays : call.Strays table) : ∃ error, call.slot table = .error error := by
  cases call with
  | filter predicate => exact Slot.ofPredicate_of_strays strays
  | returning columns => exact Slot.ofColumns_of_strays strays _ _ _
  | returningAll => exact strays.elim

theorem Select.table_ofSelection (selection : Selection) :
    (ofSelection selection).statement.table = selection.table := by
  cases selection with
  | records entity => rfl
  | rows schema => rfl
  | columns columns =>
      cases columns with
      | nil => rfl
      | cons first others =>
          simp only [ofSelection, projection]
          split <;> rfl

theorem Select.error_of_strays {selection : Selection}
    (strays : selection.Strays) :
    (ofSelection selection).statement.error ≠ none := by
  cases selection with
  | records entity => exact strays.elim
  | rows schema => exact strays.elim
  | columns columns =>
      cases columns with
      | nil => exact Option.some_ne_none _
      | cons first others =>
          cases written :
              ColumnList.write first.table (first :: others)
                Column.render with
          | ok list =>
              exact (ColumnList.not_strays_of_write written strays).elim
          | error error =>
              simp only [ofSelection, projection_of_error written]
              exact Option.some_ne_none _

theorem Update.table_ofAssignments (assignments : List Assignment) :
    (ofAssignments assignments).statement.table = table assignments := by
  cases assignments with
  | nil => rfl
  | cons first others =>
      simp only [ofAssignments, assigning]
      split <;> rfl

theorem Update.error_of_strays {assignments : List Assignment}
    (strays : Strays assignments) :
    (ofAssignments assignments).statement.error ≠ none := by
  cases assignments with
  | nil => exact Option.some_ne_none _
  | cons first others =>
      cases found : others.find? (·.table ≠ first.table) with
      | some other =>
          simp only [ofAssignments, assigning_of_other found]
          exact Option.some_ne_none _
      | none =>
          rw [List.find?_eq_none] at found
          rcases strays with isNil | ⟨stray, member, elsewhere⟩
          · cases isNil
          · rcases List.mem_cons.mp member with rfl | later
            · exact (elsewhere rfl).elim
            · exact (found stray later (by simpa [table] using elsewhere)).elim

theorem Delete.table_ofSelection (selection : Selection) :
    (ofSelection selection).statement.table = selection.table := by
  cases selection <;> rfl

theorem Delete.error_of_isProjection {selection : Selection}
    (projection : selection.IsProjection) :
    (ofSelection selection).statement.error ≠ none := by
  cases selection with
  | records entity => exact projection.elim
  | rows schema => exact projection.elim
  | columns columns => exact Option.some_ne_none _

/-- How a builder keeps to its table.  Here `begins` says that it begins with
something that strays, `strays` that a call does, and `recorded` is the error
recorded after a chain of calls. -/
structure ConfinementLaw {Call : Type} (table : String) (begins : Prop)
    (strays : Call → Prop) (filter : Predicate → Call)
    (recorded : List Call → Option Error)
    (refused : List Call → Error → Prop) : Prop where
  /-- Whatever strays, wherever it stands in the chain, is refused. -/
  confined : ∀ calls : List Call,
    begins ∨ (∃ call ∈ calls, strays call) → ∃ error, refused calls error
  /-- The first call that fails, if it is a condition, is refused for the
  leftmost of its columns that belong elsewhere. -/
  leftmost : ∀ (earlier later : List Call) (predicate : Predicate)
      (found : String),
    recorded earlier = none →
    predicate.owners.find? (· ≠ table) = some found →
      refused (earlier ++ filter predicate :: later) (.crossTable table found)

theorem confinementLaw_of_contributions {Call : Type} {statement : Statement}
    (accepted : statement.Accepted) {contribution : Call → Except Error Slot}
    {begins : Prop} {strays : Call → Prop} {filter : Predicate → Call}
    {refused : List Call → Error → Prop}
    (recorded : begins → statement.error ≠ none)
    (contributes : ∀ {call}, strays call →
      ∃ error, contribution call = .error error)
    (filters : ∀ predicate,
      contribution (filter predicate) =
        Slot.ofPredicate statement.table predicate)
    (refuses : ∀ {calls error},
      (statement.addAll (calls.map contribution)).render = .error error →
        refused calls error) :
    ConfinementLaw statement.table begins strays filter
      (fun calls => (statement.addAll (calls.map contribution)).error)
      refused where
  confined := by
    intro calls reason
    have failed : statement.error ≠ none ∨
        ∃ error, .error error ∈ calls.map contribution := by
      rcases reason with initial | ⟨call, member, stray⟩
      · exact .inl (recorded initial)
      · obtain ⟨error, contributed⟩ := contributes stray
        exact .inr ⟨error, List.mem_map.mpr ⟨call, member, contributed⟩⟩
    obtain ⟨error, rendered⟩ :=
      Statement.exists_error_of_render_addAll accepted failed
    exact ⟨error, refuses rendered⟩
  leftmost := by
    intro earlier later predicate found faultless stray
    apply refuses
    rw [List.map_append, List.map_cons, filters,
      Slot.ofPredicate_of_stray stray,
      Statement.render_addAll_of_failure accepted, faultless]
    rfl

/-- A statement that mentions a column of another table anywhere, or lacks the
columns or assignments that it cannot do without, is neither built nor executed,
whatever else is called and in which order. -/
theorem refused_of_strays :
    (∀ selection : Selection,
      let chain := fun calls => (Select.ofSelection selection).chain calls
      ConfinementLaw selection.table selection.Strays
        (SelectCall.Strays selection.table) .filter
        (fun calls => (chain calls).statement.error)
        (fun calls => (chain calls).Refused)) ∧
    (∀ assignments : List Assignment,
      let chain := fun calls => (Update.ofAssignments assignments).chain calls
      ConfinementLaw (Update.table assignments) (Update.Strays assignments)
        (UpdateCall.Strays (Update.table assignments)) .filter
        (fun calls => (chain calls).statement.error)
        (fun calls => (chain calls).Refused)) ∧
    (∀ selection : Selection,
      let chain := fun calls => (Delete.ofSelection selection).chain calls
      ConfinementLaw selection.table selection.IsProjection
        (DeleteCall.Strays selection.table) .filter
        (fun calls => (chain calls).statement.error)
        (fun calls => (chain calls).Refused)) := by
  refine ⟨?_, ?_, ?_⟩
  · intro selection chain
    simp only [chain, Select.statement_chain]
    rw [← Select.table_ofSelection selection]
    apply confinementLaw_of_contributions
      (Select.accepted_ofSelection selection) Select.error_of_strays
      SelectCall.slot_of_strays (fun _ => rfl)
    intro calls error rendered
    rw [← Select.statement_chain] at rendered
    exact refused_of_render rendered _
  · intro assignments chain
    simp only [chain, Update.statement_chain]
    rw [← Update.table_ofAssignments assignments]
    apply confinementLaw_of_contributions
      (Update.accepted_ofAssignments assignments) Update.error_of_strays
      UpdateCall.slot_of_strays (fun _ => rfl)
    intro calls error rendered
    rw [← Update.statement_chain] at rendered
    exact refused_of_render rendered .tuple
  · intro selection chain
    simp only [chain, Delete.statement_chain]
    rw [← Delete.table_ofSelection selection]
    apply confinementLaw_of_contributions
      (Delete.accepted_ofSelection selection) Delete.error_of_isProjection
      DeleteCall.slot_of_strays (fun _ => rfl)
    intro calls error rendered
    rw [← Delete.statement_chain] at rendered
    exact refused_of_render rendered _

/-- A condition behind a limit that asks for another table's column, an update
across tables, and a delete that returns no columns. -/
theorem refused_of_strays_people :
    let age (table : String) : Column :=
      { table := table
        name := "age"
        kind := .integer
        nullable := false
        aggregation := .plain }
    let young (table : String) : Predicate :=
      .compare table "age" .lt (.integer 18)
    let raise (table : String) : Assignment :=
      { table := table
        column := "age"
        operation := .add
        operand := .integer 1 }
    let people := Schema.empty "People"
    ((Select.ofSelection (.columns [age "people"])).chain
        [.limit 5, .filter (.both (young "people") (young "dogs")),
          .limit 3]).Refused (.crossTable "people" "dogs") ∧
      (∃ error,
        ((Update.ofAssignments [raise "people", raise "dogs"]).chain
          [.returningAll]).Refused error) ∧
      ∃ error,
        ((Delete.ofSelection (.rows people)).chain
          [.returningAll, .returning []]).Refused error := by
  intro age young raise people
  obtain ⟨selects, updates, deletes⟩ := refused_of_strays
  refine ⟨?_, ?_, ?_⟩
  · exact (selects (.columns [age "people"])).leftmost [.limit 5] [.limit 3]
      (.both (young "people") (young "dogs")) "dogs" rfl rfl
  · apply (updates [raise "people", raise "dogs"]).confined
    exact .inl (.inr ⟨raise "dogs", by simp, by decide⟩)
  · apply (deletes (.rows people)).confined
    exact .inr ⟨.returning [], by simp, .inl rfl⟩

end TypedSql
