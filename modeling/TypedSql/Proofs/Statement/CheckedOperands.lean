import TypedSql.Proofs.Statement.InsertHistory
import TypedSql.Proofs.Statement.Provenance
import TypedSql.Proofs.Value.StoredOrder

/-!
# Checked operands in built queries

Whatever is built, an operand of a column reaches the engine only in a storage
class that the column allows.
-/

namespace TypedSql

namespace Select

theorem supply_ofSelection {selection : Selection}
    (noError : (ofSelection selection).statement.error = none) :
    (ofSelection selection).statement.slots.map Slot.supply =
      List.map Origin.supply [(.select, []), (.source, [])] := by
  cases selection with
  | records entity => rfl
  | rows schema => rfl
  | columns columns =>
      cases columns with
      | nil => cases noError
      | cons first others =>
          dsimp only [ofSelection] at noError ⊢
          cases written :
              ColumnList.write first.table (first :: others) Column.render with
          | error error =>
              rw [projection_of_error written] at noError
              cases noError
          | ok list =>
              rw [projection_of_ok written]
              rfl

theorem boundTo {selection : Selection} {calls : List SelectCall}
    {places : List (Clause × List Origin)} {query : Query}
    (made : List.Forall₂ SelectCall.MadeOf calls places)
    (built : ((ofSelection selection).chain calls).build = .ok query) :
    query.BoundTo (StatementKind.select.inOrder places) := by
  rw [build, statement_chain] at built
  have bound := by
    refine Statement.boundTo_of_render_addAll
      (accepted_ofSelection selection) ?_ ?_ supply_ofSelection ?_ made built
    · exact fun _ _ _ => SelectCall.MadeOf.supply_eq
    · exact fun _ _ => SelectCall.MadeOf.taken
    · simp [Origin.AllTaken]
  simpa [kind_ofSelection] using bound

end Select

/-- How an assignment is made from a column and an operand. -/
inductive Assignment.MadeOf : Assignment → Origin → Prop where
  | assign {column : Column} {operation : Arithmetic} {operand : Value}
      {assignment : Assignment} :
      column.assign operation operand = .ok assignment →
      MadeOf assignment (.operand column operand)

theorem Assignment.MadeOf.datum_eq {assignment : Assignment} {origin : Origin}
    (made : assignment.MadeOf origin) :
    assignment.operand.toDatum = origin.datum := by
  cases made with
  | assign assigned =>
      obtain ⟨-, rfl⟩ := Column.assign_eq_ok_iff.mp assigned
      rfl

theorem Assignment.MadeOf.taken {assignment : Assignment} {origin : Origin}
    (made : assignment.MadeOf origin) : origin.Taken := by
  cases made with
  | assign assigned => exact (Column.assign_eq_ok_iff.mp assigned).1

namespace Update

theorem supply_assignmentSlot {assignments : List Assignment}
    {origins : List Origin}
    (made : List.Forall₂ Assignment.MadeOf assignments origins) :
    (assignmentSlot assignments).supply =
      Origin.supply (.assignments, origins) := by
  have data : assignments.map (·.operand.toDatum) =
      origins.map Origin.datum := by
    induction made with
    | nil => rfl
    | cons head _ induction =>
        rw [List.map_cons, List.map_cons, head.datum_eq, induction]
  have values : (assignmentSlot assignments).values =
      assignments.map (·.operand) := by
    simp [assignmentSlot, Assignment.render, List.flatMap_map,
      Function.comp_def, ← List.map_eq_flatMap]
  unfold Slot.supply Origin.supply
  rw [values, List.map_map, ← data]
  rfl

theorem supply_ofAssignments {assignments : List Assignment}
    {origins : List Origin}
    (made : List.Forall₂ Assignment.MadeOf assignments origins)
    (noError : (ofAssignments assignments).statement.error = none) :
    (ofAssignments assignments).statement.slots.map Slot.supply =
      List.map Origin.supply [(.update, []), (.assignments, origins)] := by
  cases assignments with
  | nil => cases noError
  | cons first others =>
      cases found : others.find? (·.table ≠ first.table) with
      | some other =>
          simp only [ofAssignments, assigning_of_other found] at noError
          cases noError
      | none =>
          simp only [ofAssignments, assigning_of_single found, List.map_cons,
            supply_assignmentSlot made]
          rfl

theorem boundTo {assignments : List Assignment} {origins : List Origin}
    {calls : List UpdateCall} {places : List (Clause × List Origin)}
    {query : Query}
    (assigned : List.Forall₂ Assignment.MadeOf assignments origins)
    (made : List.Forall₂ UpdateCall.MadeOf calls places)
    (built : ((ofAssignments assignments).chain calls).build = .ok query) :
    query.BoundTo
      (StatementKind.update.inOrder ((.assignments, origins) :: places)) := by
  rw [build, statement_chain] at built
  have taken : Origin.AllTaken origins := by
    refine forall_mem_of_forall₂ ?_ assigned
    exact fun _ _ => Assignment.MadeOf.taken
  have bound := by
    refine Statement.boundTo_of_render_addAll
      (accepted_ofAssignments assignments) ?_ ?_
      (supply_ofAssignments assigned) ?_ made built
    · exact fun _ _ _ => UpdateCall.MadeOf.supply_eq
    · exact fun _ _ => UpdateCall.MadeOf.taken
    · simpa [Origin.AllTaken] using taken
  simpa [kind_ofAssignments] using bound

end Update

namespace Delete

theorem supply_ofSelection {selection : Selection}
    (noError : (ofSelection selection).statement.error = none) :
    (ofSelection selection).statement.slots.map Slot.supply =
      List.map Origin.supply [(.delete, [])] := by
  cases selection with
  | records entity => rfl
  | rows schema => rfl
  | columns columns => cases noError

theorem boundTo {selection : Selection} {calls : List DeleteCall}
    {places : List (Clause × List Origin)} {query : Query}
    (made : List.Forall₂ DeleteCall.MadeOf calls places)
    (built : ((ofSelection selection).chain calls).build = .ok query) :
    query.BoundTo (StatementKind.delete.inOrder places) := by
  rw [build, statement_chain] at built
  have bound := by
    refine Statement.boundTo_of_render_addAll
      (accepted_ofSelection selection) ?_ ?_ supply_ofSelection ?_ made built
    · exact fun _ _ _ => DeleteCall.MadeOf.supply_eq
    · exact fun _ _ => DeleteCall.MadeOf.taken
    · simp [Origin.AllTaken]
  simpa [kind_ofSelection] using bound

end Delete

namespace Insert

variable {insert : Insert} {schema : Schema} {field name : String}
  {value : Value} {calls : List InsertCall}

theorem checkField_eq_ok_iff :
    checkField schema field value = .ok name ↔
      ∃ column, schema.column field = .ok column ∧ column.Takes value ∧
        column.name = name := by
  unfold checkField
  simp only [bind_eq_ok_iff, Column.compare_eq_ok_iff]
  constructor
  · rintro ⟨column, found, _, ⟨takes, _⟩, same⟩
    exact ⟨column, found, takes, Except.ok.inj same⟩
  · rintro ⟨column, found, takes, rfl⟩
    exact ⟨column, found, _, ⟨takes, rfl⟩, rfl⟩

/-- A value that is set joins the bindings, and nothing else changes. -/
def Accepts (insert : Insert) (field : String) (value : Value) : Prop :=
  insert.set field value =
    { insert with bindings := insert.bindings ++ [(field, value)] }

/-- A value that is set leaves the bindings alone and an error behind. -/
def Refuses (insert : Insert) (field : String) (value : Value) : Prop :=
  (insert.set field value).bindings = insert.bindings ∧
    (insert.set field value).error ≠ none

/-- The schema has a column of the name, and the column takes the value. -/
def HasPlace (schema : Schema) (field : String) (value : Value) : Prop :=
  ∃ column, schema.column field = .ok column ∧ column.Takes value

theorem accepts_of_hasPlace (place : HasPlace insert.schema field value) :
    insert.Accepts field value := by
  obtain ⟨column, found, takes⟩ := place
  have own : column.name = field := (Schema.of_column_eq_ok found).1
  have checked : checkField insert.schema field value = .ok field :=
    checkField_eq_ok_iff.mpr ⟨column, found, takes, own⟩
  unfold Accepts set
  rw [checked]

theorem refuses_of_not_hasPlace
    (noPlace : ¬HasPlace insert.schema field value) :
    insert.Refuses field value := by
  unfold Refuses set
  cases checked : checkField insert.schema field value with
  | ok name =>
      obtain ⟨column, found, takes, -⟩ := checkField_eq_ok_iff.mp checked
      exact (noPlace ⟨column, found, takes⟩).elim
  | error error =>
      refine ⟨rfl, ?_⟩
      cases insert.error <;> exact Option.some_ne_none _

theorem not_accepts_of_refuses (refuses : insert.Refuses field value) :
    ¬insert.Accepts field value := by
  intro accepts
  have same := refuses.1
  rw [accepts] at same
  exact List.cons_ne_nil _ _ (List.append_right_eq_self.mp same)

theorem accepts_iff :
    insert.Accepts field value ↔ HasPlace insert.schema field value := by
  constructor
  · intro accepts
    by_contra noPlace
    exact not_accepts_of_refuses (refuses_of_not_hasPlace noPlace) accepts
  · exact accepts_of_hasPlace

theorem refuses_iff :
    insert.Refuses field value ↔ ¬HasPlace insert.schema field value := by
  constructor
  · intro refuses place
    exact not_accepts_of_refuses refuses (accepts_of_hasPlace place)
  · exact refuses_of_not_hasPlace

end Insert

/-- How a call on an insert is made, with the origins of what it binds. -/
inductive InsertCall.MadeOf (schema : Schema) :
    InsertCall → List Origin → Prop where
  | set {field : String} {column : Column} {value : Value} :
      schema.column field = .ok column → column.Takes value →
      MadeOf schema (.set field value) [.operand column value]
  | replace : MadeOf schema .replace []

namespace InsertCall

theorem exists_madeOf {schema : Schema} {call : InsertCall}
    (faultless : call.fault? schema = none) :
    ∃ origins, call.MadeOf schema origins := by
  cases call with
  | replace => exact ⟨_, .replace⟩
  | set field value =>
      cases checked : Insert.checkField schema field value with
      | ok name =>
          obtain ⟨column, found, takes, -⟩ :=
            Insert.checkField_eq_ok_iff.mp checked
          exact ⟨_, .set found takes⟩
      | error error => simp [fault?, checked] at faultless

theorem exists_forall₂_madeOf {schema : Schema} {calls : List InsertCall}
    (faultless : ∀ call ∈ calls, call.fault? schema = none) :
    ∃ origins, List.Forall₂ (MadeOf schema) calls origins := by
  induction calls with
  | nil => exact ⟨[], .nil⟩
  | cons call calls induction =>
      obtain ⟨own, rest⟩ := List.forall_mem_cons.mp faultless
      obtain ⟨origins, made⟩ := exists_madeOf own
      obtain ⟨others, othersMade⟩ := induction rest
      exact ⟨origins :: others, .cons made othersMade⟩

theorem MadeOf.taken {schema : Schema} {call : InsertCall}
    {origins : List Origin} (made : call.MadeOf schema origins) :
    Origin.AllTaken origins := by
  cases made with
  | set _ takes => exact List.forall_mem_singleton.mpr takes
  | replace => exact List.forall_mem_nil _

theorem data_eq_of_forall₂_madeOf {schema : Schema} {calls : List InsertCall}
    {origins : List (List Origin)}
    (made : List.Forall₂ (MadeOf schema) calls origins) :
    (calls.filterMap binding?).map (·.2.toDatum) =
      origins.flatten.map Origin.datum := by
  induction made with
  | nil => rfl
  | cons head _ induction =>
      rw [List.flatten_cons, List.map_append, ← induction]
      cases head <;> rfl

end InsertCall

namespace Insert

/-- The fields of a row that are not left out, with their values. -/
def kept (schema : Schema) (values : List Value) : List Origin :=
  ((schema.fields.zip values).filter fun (field, value) =>
      !isLeftOut field value).map fun (field, value) =>
    .operand (field.column schema.tableName) value

theorem boundTo {schema : Schema} {values : List Value}
    {calls : List InsertCall} {query : Query}
    (taken : Origin.AllTaken (kept schema values))
    (built : ((ofValues schema values).chain calls).build = .ok query) :
    ∃ origins, List.Forall₂ (InsertCall.MadeOf schema) calls origins ∧
      query.BoundTo (kept schema values ++ origins.flatten) := by
  have noError := noError_of_build built
  have bindings := (bindings_chain_of_faultless noError).2
  obtain ⟨origins, made⟩ :=
    InsertCall.exists_forall₂_madeOf (faultless_of_chain noError).2
  refine ⟨origins, made, ?_⟩
  apply Query.boundTo_of_taken
  · rw [build_of_noError noError] at built
    cases built
    dsimp only
    rw [bindings, List.map_append, List.map_append,
      InsertCall.data_eq_of_forall₂_madeOf made]
    simp [ofValues, kept, Function.comp_def, Origin.datum]
  · refine List.forall_mem_append.mpr ⟨taken, ?_⟩
    intro origin member
    obtain ⟨own, ownMember, held⟩ := List.mem_flatten.mp member
    have allTaken : ∀ origins' ∈ origins, Origin.AllTaken origins' := by
      refine forall_mem_of_forall₂ ?_ made
      exact fun _ _ => InsertCall.MadeOf.taken
    exact allTaken own ownMember origin held

end Insert

/-- An element of a host type is of the kind of the type, or null where the type
is optional. -/
theorem HostType.typed_toValue (type : HostType) (element : type.Carrier) :
    (type.toValue element).kind? = some type.kind ∨
      type.toValue element = .null ∧ type.nullable = true := by
  cases type with
  | required scalar => exact .inl (scalar.kind?_toValue element)
  | optional scalar =>
      cases element with
      | none => exact .inr ⟨rfl, rfl⟩
      | some element => exact .inl (scalar.kind?_toValue element)

/-- Columns of the host types of a record take its values. -/
theorem Record.takes_of_mem_zip {fields : List EntityField}
    {record : Record fields} {fieldOf : EntityField → Field}
    (kind : ∀ field, (fieldOf field).kind = field.type.kind)
    (nullable : ∀ field, (fieldOf field).nullable = field.type.nullable)
    {field : Field} {value : Value}
    (paired : (field, value) ∈ (fields.map fieldOf).zip record.values)
    (table : String) : (field.column table).Takes value := by
  induction record with
  | nil => cases paired
  | @cons declared _ element _ induction =>
      rcases List.mem_cons.mp paired with own | other
      · cases own
        constructor
        case plain => rfl
        case typed =>
          dsimp only [Field.column]
          rw [kind, nullable]
          exact declared.type.typed_toValue element
      · exact induction other

theorem Insert.allTaken_kept (entity : Entity) (record : entity.Record) :
    Origin.AllTaken (kept entity.schema record.values) := by
  intro origin member
  obtain ⟨⟨field, value⟩, kept, rfl⟩ := List.mem_map.mp member
  apply Record.takes_of_mem_zip _ _ (List.mem_of_mem_filter kept)
  · intro declared
    rfl
  · intro declared
    rfl

/-- A column takes an operand wherever it is given to it, or nowhere: in
comparisons and arithmetic, in a list that is not empty, and in an insert.  What
is then bound for the operand has the storage class that the column fixes, or
is a null that it allows. -/
theorem operands_taken_by_columns :
    (∀ (column : Column) (operand : Value),
      (∀ comparison, (∃ predicate,
        column.compare comparison operand = .ok predicate) ↔
          column.Takes operand) ∧
      ∀ operation, (∃ assignment,
        column.assign operation operand = .ok assignment) ↔
          column.Takes operand) ∧
    (∀ (column : Column) (operands : List Value),
      (∃ predicate, column.inList operands = .ok predicate) ↔
        operands ≠ [] ∧ ∀ operand ∈ operands, column.Takes operand) ∧
    (∀ (insert : Insert) (field : String) (value : Value),
      (insert.Accepts field value ↔
        Insert.HasPlace insert.schema field value) ∧
      (insert.Refuses field value ↔
        ¬Insert.HasPlace insert.schema field value)) ∧
    (∀ (selection : Selection) (calls : List SelectCall)
      (places : List (Clause × List Origin)) (query : Query),
      List.Forall₂ SelectCall.MadeOf calls places →
      ((Select.ofSelection selection).chain calls).build = .ok query →
        query.BoundTo (StatementKind.select.inOrder places)) ∧
    (∀ (assignments : List Assignment) (origins : List Origin)
      (calls : List UpdateCall) (places : List (Clause × List Origin))
      (query : Query),
      List.Forall₂ Assignment.MadeOf assignments origins →
      List.Forall₂ UpdateCall.MadeOf calls places →
      ((Update.ofAssignments assignments).chain calls).build = .ok query →
        query.BoundTo
          (StatementKind.update.inOrder
            ((.assignments, origins) :: places))) ∧
    (∀ (selection : Selection) (calls : List DeleteCall)
      (places : List (Clause × List Origin)) (query : Query),
      List.Forall₂ DeleteCall.MadeOf calls places →
      ((Delete.ofSelection selection).chain calls).build = .ok query →
        query.BoundTo (StatementKind.delete.inOrder places)) ∧
    (∀ (schema : Schema) (calls : List InsertCall) (query : Query),
      ((Insert.empty schema).chain calls).build = .ok query →
        ∃ origins, List.Forall₂ (InsertCall.MadeOf schema) calls origins ∧
          query.BoundTo origins.flatten) ∧
    (∀ (entity : Entity) (record : entity.Record) (calls : List InsertCall)
      (query : Query),
      ((Insert.ofRecord entity record).chain calls).build = .ok query →
        ∃ origins,
          List.Forall₂ (InsertCall.MadeOf entity.schema) calls origins ∧
            query.BoundTo
              (Insert.kept entity.schema record.values ++
                origins.flatten)) := by
  refine ⟨?_, ?_, ?_, ?_, ?_, ?_, ?_, ?_⟩
  · intro column operand
    constructor
    · intro comparison
      simp [Column.compare_eq_ok_iff]
    · intro operation
      simp [Column.assign_eq_ok_iff]
  · intro column operands
    simp [Column.inList_eq_ok_iff]
  · intro insert field value
    exact ⟨Insert.accepts_iff, Insert.refuses_iff⟩
  · intro selection calls places query made built
    exact Select.boundTo made built
  · intro assignments origins calls places query assigned made built
    exact Update.boundTo assigned made built
  · intro selection calls places query made built
    exact Delete.boundTo made built
  · intro schema calls query built
    have empty : Insert.empty schema = Insert.ofValues schema [] := by
      simp [Insert.ofValues, Insert.empty]
    have kept : Insert.kept schema [] = [] := by
      simp [Insert.kept]
    rw [empty] at built
    obtain ⟨origins, made, bound⟩ :=
      Insert.boundTo (by simp [kept, Origin.AllTaken]) built
    rw [kept] at bound
    exact ⟨origins, made, bound⟩
  · intro entity record calls query built
    exact Insert.boundTo (Insert.allTaken_kept entity record) built

/-- A bound that is called for first is bound last.  One of the columns allows
null. -/
theorem operands_taken_by_columns_people :
    let age := (Field.ofKind "age" .integer).column "people"
    let name := (Field.ofType "name" (.optional .string)).column "people"
    let adult : Predicate := .compare "people" "age" .ge (.integer 18)
    let known : Predicate := .among "people" "name" [.text "Ada", .null]
    let raise : Assignment :=
      { table := "people"
        column := "age"
        operation := .add
        operand := .integer 1 }
    let people := (Schema.empty "People").addField (.ofKind "age" .integer)
    let person : Entity := .declare "People" none [("age", .required .int64)]
    let record : person.Record := .cons (18 : Int64) .nil
    let asked : List Origin :=
      [.operand age (.integer 18), .operand name (.text "Ada"),
        .operand name .null]
    let setting := [InsertCall.set "age" (.integer 18)]
    let select := (Select.ofSelection (.columns [age])).chain
      [.limit 3, .filter (.both adult known)]
    let update := (Update.ofAssignments [raise]).chain
      [.filter (.both adult known)]
    let delete := (Delete.ofSelection (.rows people)).chain
      [.filter (.both adult known)]
    (∃ query, select.build = .ok query ∧
      query.BoundTo (asked ++ [.count 3])) ∧
    (∃ query, update.build = .ok query ∧
      query.BoundTo (.operand age (.integer 1) :: asked)) ∧
    (∃ query, delete.build = .ok query ∧ query.BoundTo asked) ∧
    (∃ query, ((Insert.empty people).chain setting).build = .ok query ∧
      ∃ origins, List.Forall₂ (InsertCall.MadeOf people) setting origins ∧
        query.BoundTo origins.flatten) ∧
    (∃ query,
      ((Insert.ofRecord person record).chain setting).build = .ok query ∧
        ∃ origins,
          List.Forall₂ (InsertCall.MadeOf person.schema) setting origins ∧
            query.BoundTo
              (Insert.kept person.schema record.values ++
                origins.flatten)) := by
  intro age name adult known raise people person record asked setting select
    update delete
  obtain ⟨-, -, -, selects, updates, deletes, inserts, records⟩ :=
    operands_taken_by_columns
  have compared : age.compare .ge (.integer 18) = .ok adult := rfl
  have listed : name.inList [.text "Ada", .null] = .ok known := rfl
  have made : (Predicate.both adult known).MadeOf asked :=
    .both (.compare compared) (.among listed)
  have assigned : age.assign .add (.integer 1) = .ok raise := rfl
  refine ⟨?_, ?_, ?_, ?_, ?_⟩
  · obtain ⟨query, built⟩ : ∃ query, select.build = .ok query :=
      exists_eq_ok_of_isOk (by decide +kernel)
    exact ⟨query, built, selects _ _ _ query
      (.cons (.limit 3) (.cons (.filter made) .nil)) built⟩
  · obtain ⟨query, built⟩ : ∃ query, update.build = .ok query :=
      exists_eq_ok_of_isOk (by decide +kernel)
    exact ⟨query, built, updates _ _ _ _ query (.cons (.assign assigned) .nil)
      (.cons (.filter made) .nil) built⟩
  · obtain ⟨query, built⟩ : ∃ query, delete.build = .ok query :=
      exists_eq_ok_of_isOk (by decide +kernel)
    exact ⟨query, built, deletes _ _ _ query
      (.cons (.filter made) .nil) built⟩
  · obtain ⟨query, built⟩ :
        ∃ query, ((Insert.empty people).chain setting).build = .ok query :=
      exists_eq_ok_of_isOk (by decide +kernel)
    exact ⟨query, built, inserts people setting query built⟩
  · obtain ⟨query, built⟩ : ∃ query,
        ((Insert.ofRecord person record).chain setting).build = .ok query :=
      exists_eq_ok_of_isOk (by decide +kernel)
    exact ⟨query, built, records person record setting query built⟩

end TypedSql
