import Mathlib.Data.List.Forall2
import TypedSql.Proofs.Statement.Builder
import TypedSql.Proofs.Statement.InsertHistory
import TypedSql.Proofs.Statement.Passage

/-!
# Alignment of placeholders and parameters

The text of a statement and its parameters take separate ways, and only the
order of the slots holds them together.  Every statement that is built reads as
the passage that its builder was told to write, so no parameter is bound to the
operand of another.
-/

namespace TypedSql

/-- A query has one parameter for each placeholder, and with the parameters in
place of the placeholders it is the passage. -/
structure Aligned (query : Query) (passage : Passage) : Prop where
  count : query.sql.toList.count '?' = query.parameters.length
  filled : fill? query.sql.toList query.parameters = some passage

theorem aligned_of_reads {query : Query} {passage : Passage}
    (reads : Reads query.sql query.parameters passage) :
    Aligned query passage :=
  { count := count_of_fill? reads
    filled := reads }

/-- The passages of clauses in the order of a walk, with single spaces between
them.  An offset alone comes with an endless limit. -/
def Passage.ofClauses (kind : StatementKind)
    (places : List (Clause × Passage)) : Passage :=
  Passage.join " "
    ((kind.arrange Prod.fst (.limit, Passage.ofText "LIMIT -1") places).map
      Prod.snd)

theorem aligned_querying (kind : StatementKind) {slots : List Slot}
    {places : List (Clause × Passage)}
    (reads : List.Forall₂ Slot.ReadsAs slots places) :
    Aligned
      (Statement.querying (kind.arrange Slot.clause Slot.unlimited slots))
      (Passage.ofClauses kind places) := by
  obtain ⟨sameLength, paired⟩ := List.forall₂_iff_zip.mp reads
  let unlimited : Slot × (Clause × Passage) :=
    (Slot.unlimited, (.limit, Passage.ofText "LIMIT -1"))
  let items := slots.zip places
  let arranged := kind.arrange (fun item => item.1.clause) unlimited items
  have slotsArranged :
      arranged.map Prod.fst =
        kind.arrange Slot.clause Slot.unlimited slots := by
    have moved : arranged.map Prod.fst =
        kind.arrange Slot.clause Slot.unlimited (items.map Prod.fst) :=
      kind.map_arrange unlimited fun _ _ => rfl
    rw [List.map_fst_zip (by omega)] at moved
    exact moved
  have placesArranged :
      arranged.map Prod.snd =
        kind.arrange Prod.fst (.limit, Passage.ofText "LIMIT -1") places := by
    have moved : arranged.map Prod.snd =
        kind.arrange Prod.fst (.limit, Passage.ofText "LIMIT -1")
          (items.map Prod.snd) :=
      kind.map_arrange unlimited fun _ member => (paired member).1.symm
    rw [List.map_snd_zip (by omega)] at moved
    exact moved
  have itemReads : ∀ item ∈ arranged,
      Reads item.1.sql (item.1.values.map Value.toDatum) item.2.2 := by
    intro item member
    rcases StatementKind.mem_arrange member with paired' | isUnlimited
    · exact (paired paired').2
    · subst isUnlimited
      have text : Unmarked "LIMIT -1" := by decide
      exact Reads.ofText text
  have space : Unmarked " " := by decide
  have whole := Reads.join space itemReads
  apply aligned_of_reads
  unfold Passage.ofClauses Statement.querying
  rw [← slotsArranged, ← placesArranged]
  simpa only [List.map_map, List.flatMap_map, Function.comp_def] using whole

theorem forall₂_readsAs {Call : Type} {contribution : Call → Except Error Slot}
    {place : Call → Clause × Passage} {calls : List Call} {slots : List Slot}
    (contributed : calls.map contribution = slots.map Except.ok)
    (reads : ∀ call ∈ calls, ∀ slot, contribution call = .ok slot →
      slot.ReadsAs (place call)) :
    List.Forall₂ Slot.ReadsAs slots (calls.map place) := by
  induction calls generalizing slots with
  | nil =>
      cases slots with
      | nil => exact .nil
      | cons slot slots => cases contributed
  | cons call calls induction =>
      cases slots with
      | nil => cases contributed
      | cons slot slots =>
          obtain ⟨first, rest⟩ := List.cons.inj contributed
          apply List.Forall₂.cons
          · exact reads call (by simp) slot first
          · apply induction rest
            intro other member
            exact reads other (by simp [member])

/-- If the clauses that a builder begins with and the clauses that its calls add
read as their passages, so does the whole statement. -/
theorem aligned_of_render_addAll {Call : Type} {statement : Statement}
    (accepted : statement.Accepted)
    {contribution : Call → Except Error Slot}
    {place : Call → Clause × Passage} {names : Call → List String}
    (readsAs : ∀ {call slot}, contribution call = .ok slot →
      (∀ name ∈ names call, Unmarked name) → slot.ReadsAs (place call))
    {calls : List Call} {initial : List (Clause × Passage)} {query : Query}
    (initialReads : statement.error = none →
      List.Forall₂ Slot.ReadsAs statement.slots initial)
    (unmarked : ∀ name ∈ calls.flatMap names, Unmarked name)
    (built : (statement.addAll (calls.map contribution)).render = .ok query) :
    Aligned query
      (Passage.ofClauses statement.kind (initial ++ calls.map place)) := by
  obtain ⟨noError, slots, contributed, rfl⟩ :=
    Statement.of_render_addAll_eq_ok accepted built
  have callReads : ∀ call ∈ calls, ∀ slot, contribution call = .ok slot →
      slot.ReadsAs (place call) := by
    intro call member slot filled
    apply readsAs filled
    intro name nameMember
    exact unmarked name (List.mem_flatMap.mpr ⟨call, member, nameMember⟩)
  apply aligned_querying
  exact List.rel_append (initialReads noError)
    (forall₂_readsAs contributed callReads)

theorem Direction.unmarked_ending (direction : Direction) :
    Unmarked (" " ++ direction.keyword) := by
  cases direction <;> decide

/-- Names that a selection mentions. -/
def Selection.names : Selection → List String
  | .records entity => [entity.tableName]
  | .rows schema => [schema.tableName]
  | .columns listed => listed.flatMap fun column =>
      [column.table, column.name]

namespace SelectCall

def names : SelectCall → List String
  | .filter predicate => predicate.columns
  | .orderBy columns _ => columns.map (·.name)
  | .limit _ => []
  | .offset _ => []
  | .groupBy columns => columns.map (·.name)

/-- The clause that a call adds, with its passage. -/
def place : SelectCall → Clause × Passage
  | .filter predicate =>
      (.filter, Passage.ofText "WHERE " ++ predicate.passage)
  | .orderBy columns direction =>
      (.orderBy, Passage.ofColumns .orderBy columns Column.render
        (" " ++ direction.keyword))
  | .limit count =>
      (.limit, Passage.ofText "LIMIT " ++ Passage.operand (.integer count))
  | .offset count =>
      (.offset, Passage.ofText "OFFSET " ++ Passage.operand (.integer count))
  | .groupBy columns =>
      (.groupBy, Passage.ofColumns .groupBy columns Column.name "")

theorem readsAs {table : String} {call : SelectCall} {slot : Slot}
    (filled : call.slot table = .ok slot)
    (unmarked : ∀ name ∈ call.names, Unmarked name) :
    slot.ReadsAs call.place := by
  cases call with
  | filter predicate => exact Slot.readsAs_ofPredicate filled unmarked
  | orderBy columns direction =>
      exact Slot.readsAs_ofColumns filled unmarked Column.unmarked_render
        direction.unmarked_ending
  | limit count =>
      cases filled
      exact Slot.readsAs_limit count
  | offset count =>
      cases filled
      exact Slot.readsAs_offset count
  | groupBy columns =>
      exact Slot.readsAs_ofColumns filled unmarked id (by decide)

end SelectCall

namespace Select

/-- The clauses that a select begins with, with their passages. -/
def places : Selection → List (Clause × Passage)
  | .records entity =>
      [(.select, Passage.ofText "SELECT *"),
        (.source, Passage.ofText ("FROM " ++ entity.tableName))]
  | .rows schema =>
      [(.select, Passage.ofText "SELECT *"),
        (.source, Passage.ofText ("FROM " ++ schema.tableName))]
  | .columns [] => []
  | .columns (first :: others) =>
      [(.select, Passage.ofText
          ("SELECT " ++
            ", ".intercalate ((first :: others).map Column.render))),
        (.source, Passage.ofText ("FROM " ++ first.table))]

/-- A select with its operands in place. -/
def passage (selection : Selection) (calls : List SelectCall) : Passage :=
  Passage.ofClauses .select (places selection ++ calls.map SelectCall.place)

theorem slots_wholeTable (table : String) :
    (wholeTable table).slots =
      [Slot.ofText .select "SELECT *",
        Slot.ofText .source ("FROM " ++ table)] :=
  rfl

theorem wholeTable_readsAs {table : String} (unmarked : Unmarked table) :
    List.Forall₂ Slot.ReadsAs (wholeTable table).slots
      [(.select, Passage.ofText "SELECT *"),
        (.source, Passage.ofText ("FROM " ++ table))] := by
  have all : Unmarked "SELECT *" := by decide
  have source : Unmarked ("FROM " ++ table) := by
    rw [unmarked_append]
    exact ⟨by decide, unmarked⟩
  rw [slots_wholeTable]
  exact .cons (Slot.readsAs_ofText _ all)
    (.cons (Slot.readsAs_ofText _ source) .nil)

theorem projection_readsAs {first : Column} {others : List Column}
    (unmarked : ∀ name ∈ Selection.names (.columns (first :: others)),
      Unmarked name)
    (noError : (projection (first :: others)).error = none) :
    List.Forall₂ Slot.ReadsAs (projection (first :: others)).slots
      (places (.columns (first :: others))) := by
  cases written :
      ColumnList.write first.table (first :: others) Column.render with
  | error error =>
      rw [projection_of_error written] at noError
      cases noError
  | ok list =>
      have terms : ∀ column ∈ first :: others, Unmarked column.render := by
        intro column member
        apply Column.unmarked_render
        exact unmarked column.name
          (List.mem_flatMap.mpr ⟨column, member, by simp⟩)
      have listUnmarked := ColumnList.unmarked_write written terms
      have selected : Unmarked ("SELECT " ++ list) := by
        rw [unmarked_append]
        exact ⟨by decide, listUnmarked⟩
      have source : Unmarked ("FROM " ++ first.table) := by
        rw [unmarked_append]
        exact ⟨by decide, unmarked first.table
          (List.mem_flatMap.mpr ⟨first, by simp, by simp⟩)⟩
      have reads :
          List.Forall₂ Slot.ReadsAs
            [Slot.ofText .select ("SELECT " ++ list),
              Slot.ofText .source ("FROM " ++ first.table)]
            [(.select, Passage.ofText ("SELECT " ++ list)),
              (.source, Passage.ofText ("FROM " ++ first.table))] :=
        .cons (Slot.readsAs_ofText _ selected)
          (.cons (Slot.readsAs_ofText _ source) .nil)
      rw [projection_of_ok written]
      rw [ColumnList.eq_of_write_eq_ok written] at reads ⊢
      exact reads

theorem initial_readsAs {selection : Selection}
    (unmarked : ∀ name ∈ selection.names, Unmarked name)
    (noError : (ofSelection selection).statement.error = none) :
    List.Forall₂ Slot.ReadsAs (ofSelection selection).statement.slots
      (places selection) := by
  cases selection with
  | records entity =>
      exact wholeTable_readsAs (unmarked _ (by simp [Selection.names]))
  | rows schema =>
      exact wholeTable_readsAs (unmarked _ (by simp [Selection.names]))
  | columns columns =>
      cases columns with
      | nil => cases noError
      | cons first others => exact projection_readsAs unmarked noError

theorem aligned {selection : Selection} {calls : List SelectCall}
    {query : Query}
    (unmarked : ∀ name ∈ selection.names ++ calls.flatMap SelectCall.names,
      Unmarked name)
    (built : ((ofSelection selection).chain calls).build = .ok query) :
    Aligned query (passage selection calls) := by
  obtain ⟨selectionUnmarked, callsUnmarked⟩ :=
    List.forall_mem_append.mp unmarked
  rw [build, statement_chain] at built
  have whole :=
    aligned_of_render_addAll (accepted_ofSelection selection)
      SelectCall.readsAs (initial_readsAs selectionUnmarked)
      callsUnmarked built
  rw [kind_ofSelection] at whole
  exact whole

end Select

namespace UpdateCall

def names : UpdateCall → List String
  | .filter predicate => predicate.columns
  | .returning columns => columns.map (·.name)
  | .returningAll => []
  | .orderBy columns _ => columns.map (·.name)
  | .limit _ => []
  | .offset _ => []

/-- The clause that a call adds, with its passage. -/
def place : UpdateCall → Clause × Passage
  | .filter predicate =>
      (.filter, Passage.ofText "WHERE " ++ predicate.passage)
  | .returning columns =>
      (.returning, Passage.ofColumns .returning columns Column.name "")
  | .returningAll => (.returning, Passage.ofText "RETURNING *")
  | .orderBy columns direction =>
      (.orderBy, Passage.ofColumns .orderBy columns Column.name
        (" " ++ direction.keyword))
  | .limit count =>
      (.limit, Passage.ofText "LIMIT " ++ Passage.operand (.integer count))
  | .offset count =>
      (.offset, Passage.ofText "OFFSET " ++ Passage.operand (.integer count))

theorem readsAs {table : String} {call : UpdateCall} {slot : Slot}
    (filled : call.slot table = .ok slot)
    (unmarked : ∀ name ∈ call.names, Unmarked name) :
    slot.ReadsAs call.place := by
  cases call with
  | filter predicate => exact Slot.readsAs_ofPredicate filled unmarked
  | returning columns =>
      exact Slot.readsAs_ofColumns filled unmarked id (by decide)
  | returningAll =>
      cases filled
      have text : Unmarked "RETURNING *" := by decide
      exact Slot.readsAs_ofText _ text
  | orderBy columns direction =>
      exact Slot.readsAs_ofColumns filled unmarked id
        direction.unmarked_ending
  | limit count =>
      cases filled
      exact Slot.readsAs_limit count
  | offset count =>
      cases filled
      exact Slot.readsAs_offset count

end UpdateCall

namespace Update

def names (assignments : List Assignment) : List String :=
  assignments.flatMap fun assignment => [assignment.table, assignment.column]

/-- The clauses that an update begins with, with their passages. -/
def places : List Assignment → List (Clause × Passage)
  | [] => []
  | first :: others =>
      [(.update, Passage.ofText ("UPDATE " ++ first.table)),
        (.assignments,
          Passage.ofText "SET " ++
            Passage.join ", "
              ((first :: others).map Assignment.passage))]

/-- An update with its operands in place. -/
def passage (assignments : List Assignment) (calls : List UpdateCall) :
    Passage :=
  Passage.ofClauses .update (places assignments ++ calls.map UpdateCall.place)

theorem assignmentSlot_readsAs {assignments : List Assignment}
    (unmarked : ∀ assignment ∈ assignments, Unmarked assignment.column) :
    (assignmentSlot assignments).ReadsAs
      (.assignments,
        Passage.ofText "SET " ++
          Passage.join ", " (assignments.map Assignment.passage)) := by
  have keyword : Unmarked "SET " := by decide
  have targets : Reads
      (", ".intercalate (assignments.map fun assignment =>
        assignment.render.sql))
      (assignments.flatMap fun assignment => [assignment.operand.toDatum])
      (Passage.join ", " (assignments.map Assignment.passage)) :=
    Reads.join (by decide) fun assignment member =>
      Assignment.reads (unmarked assignment member)
  have whole := (Reads.ofText keyword).append targets
  refine ⟨rfl, ?_⟩
  simpa [assignmentSlot, Assignment.render, List.map_flatMap,
    List.flatMap_map, Function.comp_def] using whole

theorem initial_readsAs {assignments : List Assignment}
    (unmarked : ∀ name ∈ names assignments, Unmarked name)
    (noError : (ofAssignments assignments).statement.error = none) :
    List.Forall₂ Slot.ReadsAs (ofAssignments assignments).statement.slots
      (places assignments) := by
  cases assignments with
  | nil => cases noError
  | cons first others =>
      cases found : others.find? (·.table ≠ first.table) with
      | some other =>
          simp only [ofAssignments, assigning_of_other found] at noError
          cases noError
      | none =>
          have target : Unmarked ("UPDATE " ++ first.table) := by
            rw [unmarked_append]
            exact ⟨by decide, unmarked first.table (by simp [names])⟩
          have columns : ∀ assignment ∈ first :: others,
              Unmarked assignment.column := by
            intro assignment member
            exact unmarked assignment.column
              (List.mem_flatMap.mpr ⟨assignment, member, by simp⟩)
          simp only [ofAssignments, assigning_of_single found]
          exact .cons (Slot.readsAs_ofText _ target)
            (.cons (assignmentSlot_readsAs columns) .nil)

theorem aligned {assignments : List Assignment} {calls : List UpdateCall}
    {query : Query}
    (unmarked : ∀ name ∈ names assignments ++ calls.flatMap UpdateCall.names,
      Unmarked name)
    (built : ((ofAssignments assignments).chain calls).build = .ok query) :
    Aligned query (passage assignments calls) := by
  obtain ⟨assignmentsUnmarked, callsUnmarked⟩ :=
    List.forall_mem_append.mp unmarked
  rw [build, statement_chain] at built
  have whole :=
    aligned_of_render_addAll (accepted_ofAssignments assignments)
      UpdateCall.readsAs (initial_readsAs assignmentsUnmarked)
      callsUnmarked built
  rw [kind_ofAssignments] at whole
  exact whole

end Update

namespace DeleteCall

def names : DeleteCall → List String
  | .filter predicate => predicate.columns
  | .returning columns => columns.map (·.name)
  | .returningAll => []

/-- The clause that a call adds, with its passage. -/
def place : DeleteCall → Clause × Passage
  | .filter predicate =>
      (.filter, Passage.ofText "WHERE " ++ predicate.passage)
  | .returning columns =>
      (.returning, Passage.ofColumns .returning columns Column.name "")
  | .returningAll => (.returning, Passage.ofText "RETURNING *")

theorem readsAs {table : String} {call : DeleteCall} {slot : Slot}
    (filled : call.slot table = .ok slot)
    (unmarked : ∀ name ∈ call.names, Unmarked name) :
    slot.ReadsAs call.place := by
  cases call with
  | filter predicate => exact Slot.readsAs_ofPredicate filled unmarked
  | returning columns =>
      exact Slot.readsAs_ofColumns filled unmarked id (by decide)
  | returningAll =>
      cases filled
      have text : Unmarked "RETURNING *" := by decide
      exact Slot.readsAs_ofText _ text

end DeleteCall

namespace Delete

/-- The clause that a delete begins with, with its passage. -/
def places : Selection → List (Clause × Passage)
  | .records entity =>
      [(.delete, Passage.ofText ("DELETE FROM " ++ entity.tableName))]
  | .rows schema =>
      [(.delete, Passage.ofText ("DELETE FROM " ++ schema.tableName))]
  | .columns _ => []

/-- A delete with its operands in place. -/
def passage (selection : Selection) (calls : List DeleteCall) : Passage :=
  Passage.ofClauses .delete (places selection ++ calls.map DeleteCall.place)

theorem wholeTable_readsAs {table : String} (unmarked : Unmarked table) :
    List.Forall₂ Slot.ReadsAs (wholeTable table).slots
      [(.delete, Passage.ofText ("DELETE FROM " ++ table))] := by
  have target : Unmarked ("DELETE FROM " ++ table) := by
    rw [unmarked_append]
    exact ⟨by decide, unmarked⟩
  have slots : (wholeTable table).slots =
      [Slot.ofText .delete ("DELETE FROM " ++ table)] := rfl
  rw [slots]
  exact .cons (Slot.readsAs_ofText _ target) .nil

theorem initial_readsAs {selection : Selection}
    (unmarked : ∀ name ∈ selection.names, Unmarked name)
    (noError : (ofSelection selection).statement.error = none) :
    List.Forall₂ Slot.ReadsAs (ofSelection selection).statement.slots
      (places selection) := by
  cases selection with
  | records entity =>
      exact wholeTable_readsAs (unmarked _ (by simp [Selection.names]))
  | rows schema =>
      exact wholeTable_readsAs (unmarked _ (by simp [Selection.names]))
  | columns columns => cases noError

theorem aligned {selection : Selection} {calls : List DeleteCall}
    {query : Query}
    (unmarked : ∀ name ∈ selection.names ++ calls.flatMap DeleteCall.names,
      Unmarked name)
    (built : ((ofSelection selection).chain calls).build = .ok query) :
    Aligned query (passage selection calls) := by
  obtain ⟨selectionUnmarked, callsUnmarked⟩ :=
    List.forall_mem_append.mp unmarked
  rw [build, statement_chain] at built
  have whole :=
    aligned_of_render_addAll (accepted_ofSelection selection)
      DeleteCall.readsAs (initial_readsAs selectionUnmarked)
      callsUnmarked built
  rw [kind_ofSelection] at whole
  exact whole

end Delete

theorem Identifier.mem_doubleQuotes {character : Char} {name : List Char}
    (plain : character ≠ '"') :
    character ∈ doubleQuotes name ↔ character ∈ name := by
  induction name with
  | nil => rfl
  | cons first name induction =>
      unfold doubleQuotes
      split
      case isTrue isQuote => simp [isQuote, plain, induction]
      case isFalse => simp [induction]

theorem Identifier.unmarked_quote {name : String} (unmarked : Unmarked name) :
    Unmarked (quote name) := by
  have plain : '?' ≠ '"' := by decide
  simpa [Unmarked, quote, mem_doubleQuotes plain] using unmarked

/-- Names of a table and its columns. -/
def Schema.names (schema : Schema) : List String :=
  schema.tableName :: schema.fields.map (·.name)

namespace Insert

open Identifier (quote)

/-- Columns with the values that are inserted under them: the fields of a record
apart from the keys left out, then what the calls set. -/
def pairs (schema : Schema) (values : List Value) (calls : List InsertCall) :
    List (String × Value) :=
  (schema.fields.zip values).filterMap
      (fun (field, value) =>
        if isLeftOut field value then none else some (field.name, value)) ++
    calls.filterMap InsertCall.binding?

/-- An insert of values under the names of their columns. -/
def passageOf (verb table : String) (bound : List (String × Value)) :
    Passage :=
  if bound.isEmpty then
    Passage.ofText
      (verb ++ " INTO \"" ++ table ++ "\" DEFAULT VALUES RETURNING *")
  else
    Passage.ofText
        (verb ++ " INTO " ++ quote table ++ " (" ++
          ", ".intercalate (bound.map fun (name, _) => quote name) ++
          ") VALUES (") ++
      Passage.join ", " (bound.map fun (_, value) => Passage.operand value) ++
      Passage.ofText ") RETURNING *"

/-- An insert with its values in place. -/
def passage (schema : Schema) (values : List Value)
    (calls : List InsertCall) : Passage :=
  passageOf (if calls.any InsertCall.replaces then "REPLACE" else "INSERT")
    schema.tableName (pairs schema values calls)

theorem bindings_ofValues (schema : Schema) (values : List Value) :
    (ofValues schema values).bindings = pairs schema values [] := by
  unfold ofValues pairs
  generalize schema.fields.zip values = zipped
  induction zipped with
  | nil => rfl
  | cons pair zipped induction =>
      obtain ⟨field, value⟩ := pair
      cases leftOut : isLeftOut field value with
      | true => simpa [leftOut] using induction
      | false => simpa [leftOut] using induction

theorem bindings_eq_pairs {schema : Schema} {values : List Value}
    {calls : List InsertCall}
    (noError : ((ofValues schema values).chain calls).error = none) :
    ((ofValues schema values).chain calls).bindings =
      pairs schema values calls := by
  rw [(bindings_chain_of_faultless noError).2, bindings_ofValues]
  simp [pairs]

theorem keyword_chain (schema : Schema) (values : List Value)
    (calls : List InsertCall) :
    ((ofValues schema values).chain calls).mode.keyword =
      if calls.any InsertCall.replaces then "REPLACE" else "INSERT" := by
  rw [chain_eq]
  dsimp only
  split <;> rfl

theorem schema_chain (schema : Schema) (values : List Value)
    (calls : List InsertCall) :
    ((ofValues schema values).chain calls).schema = schema := by
  rw [chain_eq]
  rfl

theorem reads_text {mode : WriteMode} {table : String}
    {bound : List (String × Value)} (tableUnmarked : Unmarked table)
    (namesUnmarked : ∀ pair ∈ bound, Unmarked pair.1) :
    Reads (text mode table (bound.map (·.1))) (bound.map (·.2.toDatum))
      (passageOf mode.keyword table bound) := by
  have verb : Unmarked mode.keyword := by cases mode <;> decide
  cases bound with
  | nil =>
      have whole : Unmarked
          (mode.keyword ++ " INTO \"" ++ table ++
            "\" DEFAULT VALUES RETURNING *") := by
        simp only [unmarked_append]
        exact ⟨⟨⟨verb, by decide⟩, tableUnmarked⟩, by decide⟩
      exact Reads.ofText whole
  | cons first others =>
      have names : Unmarked
          (", ".intercalate ((first :: others).map fun (name, _) =>
            quote name)) := by
        apply unmarked_intercalate (by decide)
        intro quoted member
        obtain ⟨pair, pairMember, rfl⟩ := List.mem_map.mp member
        exact Identifier.unmarked_quote (namesUnmarked pair pairMember)
      have opening : Unmarked
          (mode.keyword ++ " INTO " ++ quote table ++ " (" ++
            ", ".intercalate ((first :: others).map fun (name, _) =>
              quote name) ++
            ") VALUES (") := by
        simp only [unmarked_append]
        exact ⟨⟨⟨⟨⟨verb, by decide⟩, Identifier.unmarked_quote tableUnmarked⟩,
          by decide⟩, names⟩, by decide⟩
      have marks : Reads
          (", ".intercalate ((first :: others).map fun _ => "?"))
          ((first :: others).flatMap fun pair => [pair.2.toDatum])
          (Passage.join ", "
            ((first :: others).map fun pair => Passage.operand pair.2)) :=
        Reads.join (by decide) fun pair _ => Reads.mark pair.2
      have closing : Unmarked ") RETURNING *" := by decide
      have whole :=
        ((Reads.ofText opening).append marks).append (Reads.ofText closing)
      rw [List.nil_append, List.append_nil, ← List.map_eq_flatMap] at whole
      simpa [text, passageOf, Function.comp_def] using whole

theorem aligned {schema : Schema} {values : List Value}
    {calls : List InsertCall} {query : Query}
    (unmarked : ∀ name ∈ schema.names, Unmarked name)
    (built : ((ofValues schema values).chain calls).build = .ok query) :
    Aligned query (passage schema values calls) := by
  have tableUnmarked : Unmarked schema.tableName :=
    unmarked _ (by simp [Schema.names])
  have noError := noError_of_build built
  have namesUnmarked : ∀ pair ∈ pairs schema values calls,
      Unmarked pair.1 := by
    intro pair member
    rw [← bindings_eq_pairs noError] at member
    obtain ⟨field, fieldMember, sameName⟩ := field_of_mem_bindings member
    rw [← sameName]
    exact unmarked field.name
      (List.mem_cons_of_mem _ (List.mem_map.mpr ⟨field, fieldMember, rfl⟩))
  rw [build_of_noError noError, bindings_eq_pairs noError, schema_chain]
    at built
  cases built
  apply aligned_of_reads
  unfold passage
  rw [← keyword_chain schema values calls]
  exact reads_text tableUnmarked namesUnmarked

theorem ofValues_nil (schema : Schema) : ofValues schema [] = empty schema := by
  simp [ofValues, empty]

end Insert

/-- Every query that is built, from names without a placeholder, has its
parameters in the order of its placeholders: filled in, it is the passage in
which every operand stands in its own place. -/
theorem aligned_of_build :
    (∀ (selection : Selection) (calls : List SelectCall) (query : Query),
      (∀ name ∈ selection.names ++ calls.flatMap SelectCall.names,
        Unmarked name) →
      ((Select.ofSelection selection).chain calls).build = .ok query →
        Aligned query (Select.passage selection calls)) ∧
    (∀ (assignments : List Assignment) (calls : List UpdateCall)
      (query : Query),
      (∀ name ∈ Update.names assignments ++ calls.flatMap UpdateCall.names,
        Unmarked name) →
      ((Update.ofAssignments assignments).chain calls).build = .ok query →
        Aligned query (Update.passage assignments calls)) ∧
    (∀ (selection : Selection) (calls : List DeleteCall) (query : Query),
      (∀ name ∈ selection.names ++ calls.flatMap DeleteCall.names,
        Unmarked name) →
      ((Delete.ofSelection selection).chain calls).build = .ok query →
        Aligned query (Delete.passage selection calls)) ∧
    (∀ (entity : Entity) (record : entity.Record) (calls : List InsertCall)
      (query : Query),
      (∀ name ∈ entity.schema.names, Unmarked name) →
      ((Insert.ofRecord entity record).chain calls).build = .ok query →
        Aligned query (Insert.passage entity.schema record.values calls)) ∧
    (∀ (schema : Schema) (calls : List InsertCall) (query : Query),
      (∀ name ∈ schema.names, Unmarked name) →
      ((Insert.empty schema).chain calls).build = .ok query →
        Aligned query (Insert.passage schema [] calls)) := by
  refine ⟨?_, ?_, ?_, ?_, ?_⟩
  · intro selection calls query unmarked built
    exact Select.aligned unmarked built
  · intro assignments calls query unmarked built
    exact Update.aligned unmarked built
  · intro selection calls query unmarked built
    exact Delete.aligned unmarked built
  · intro entity record calls query unmarked built
    exact Insert.aligned unmarked built
  · intro schema calls query unmarked built
    rw [← Insert.ofValues_nil] at built
    exact Insert.aligned unmarked built

/-- Bounds take parameters behind those of a condition, whichever is called for
first. -/
theorem aligned_of_build_people :
    let age : Column :=
      { table := "people"
        name := "age"
        kind := .integer
        nullable := false
        aggregation := .plain }
    let raise : Assignment :=
      { table := "people"
        column := "age"
        operation := .add
        operand := .integer 1 }
    let people : Schema :=
      (Schema.empty "People").addField (.ofKind "age" .integer)
    let adult (table : String) : Predicate :=
      .compare table "age" .ge (.integer 18)
    let selectCalls := [.offset 2, .filter (adult "people")]
    let updateCalls := [.filter (adult "people")]
    let deleteCalls := [.filter (adult people.tableName)]
    let insertCalls := [.replace, .set "age" (.integer 18)]
    (∃ query,
      ((Select.ofSelection (.columns [age])).chain selectCalls).build =
          .ok query ∧
        Aligned query (Select.passage (.columns [age]) selectCalls)) ∧
    (∃ query,
      ((Update.ofAssignments [raise]).chain updateCalls).build = .ok query ∧
        Aligned query (Update.passage [raise] updateCalls)) ∧
    (∃ query,
      ((Delete.ofSelection (.rows people)).chain deleteCalls).build =
          .ok query ∧
        Aligned query (Delete.passage (.rows people) deleteCalls)) ∧
    (∃ query,
      ((Insert.empty people).chain insertCalls).build = .ok query ∧
        Aligned query (Insert.passage people [] insertCalls)) := by
  dsimp only
  obtain ⟨selects, updates, deletes, records, inserts⟩ := aligned_of_build
  refine ⟨?_, ?_, ?_, ?_⟩
  · exact ⟨_, rfl, selects _ _ _ (by decide) rfl⟩
  · exact ⟨_, rfl, updates _ _ _ (by decide) rfl⟩
  · exact ⟨_, rfl, deletes _ _ _ (by decide) rfl⟩
  · exact ⟨_, rfl, inserts _ _ _ (by decide) rfl⟩

end TypedSql
