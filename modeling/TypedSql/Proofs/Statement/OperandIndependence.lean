import Mathlib.Data.List.Forall2
import TypedSql.Proofs.Statement.Builder
import TypedSql.Proofs.Statement.InsertHistory

/-!
# Texts without operands

The text of a statement does not depend on the operands that it is built with,
apart from whether a compared operand is null, how long a list of operands is,
and which keys of a record are left to the storage engine.  Everything else
about a value goes into the parameters.
-/

namespace TypedSql

theorem map_eq_map_of_forall₂ {α β : Type} {relation : α → α → Prop}
    {value : α → β} {left right : List α}
    (same : ∀ {first second}, relation first second →
      value first = value second)
    (related : List.Forall₂ relation left right) :
    left.map value = right.map value := by
  induction related with
  | nil => rfl
  | cons head _ induction =>
      rw [List.map_cons, List.map_cons, same head, induction]

namespace Slot

/-- The slot without the values for its placeholders. -/
def bare (slot : Slot) : Slot :=
  { slot with values := [] }

end Slot

namespace Statement

/-- The statement without any values. -/
def bare (statement : Statement) : Statement :=
  { statement with slots := statement.slots.map Slot.bare }

theorem bare_add (statement : Statement) (slot : Except Error Slot) :
    (statement.add slot).bare = statement.bare.add (slot.map Slot.bare) := by
  cases slot with
  | error error => rfl
  | ok slot =>
      by_cases accepted : slot.clause ∈ statement.kind.clauses
      · simp [add, push, bare, Slot.bare, accepted, Except.map, bind,
          Except.bind]
      · simp [add, push, fail, bare, Slot.bare, accepted, Except.map, bind,
          Except.bind]

theorem bare_addAll (statement : Statement)
    (slots : List (Except Error Slot)) :
    (statement.addAll slots).bare =
      statement.bare.addAll (slots.map (Except.map Slot.bare)) := by
  induction slots generalizing statement with
  | nil => rfl
  | cons slot slots induction =>
      have unfolded :
          statement.addAll (slot :: slots) =
            (statement.add slot).addAll slots := rfl
      rw [unfolded, induction, bare_add]
      rfl

theorem Accepted.bare {statement : Statement}
    (accepted : statement.Accepted) : statement.bare.Accepted := by
  intro slot member
  obtain ⟨original, originalMember, rfl⟩ := List.mem_map.mp member
  exact accepted original originalMember

theorem assemble_text_bare (kind : StatementKind) (firstError : Option Error)
    (slots : List Slot) :
    (assemble kind firstError (slots.map Slot.bare)).map Query.sql =
      (assemble kind firstError slots).map Query.sql := by
  have present :
      (slots.map Slot.bare).map (·.clause) = slots.map (·.clause) := by
    rw [List.map_map]
    rfl
  have arranged :
      kind.arrange Slot.clause Slot.unlimited (slots.map Slot.bare) =
        (kind.arrange Slot.clause Slot.unlimited slots).map Slot.bare :=
    (kind.map_arrange Slot.unlimited fun _ _ => rfl).symm
  have texts : ∀ taken : List Slot,
      (querying (taken.map Slot.bare)).sql = (querying taken).sql := by
    intro taken
    unfold querying
    rw [List.map_map]
    rfl
  unfold assemble
  cases firstError with
  | some error => rfl
  | none =>
      rw [present, arranged]
      dsimp only
      split
      · rfl
      · split
        · rfl
        · split
          · rfl
          · exact congrArg Except.ok (texts _)

/-- Values do not show in the text, nor in the error. -/
theorem render_text_bare {statement : Statement}
    (accepted : statement.Accepted) :
    statement.bare.render.map Query.sql = statement.render.map Query.sql := by
  rw [render_eq_assemble accepted, render_eq_assemble accepted.bare]
  exact assemble_text_bare _ _ _

/-- Statements that differ in values only, extended by calls whose contributions
differ in values only, have the same text or the same error. -/
theorem text_addAll_eq {Call : Type} {first second : Statement}
    (firstAccepted : first.Accepted) (secondAccepted : second.Accepted)
    (sameStatement : first.bare = second.bare)
    {contribution : Call → Except Error Slot} {relation : Call → Call → Prop}
    (sameContribution : ∀ {call other}, relation call other →
      (contribution call).map Slot.bare = (contribution other).map Slot.bare)
    {left right : List Call} (related : List.Forall₂ relation left right) :
    (first.addAll (left.map contribution)).render.map Query.sql =
      (second.addAll (right.map contribution)).render.map Query.sql := by
  have contributions :
      (left.map contribution).map (Except.map Slot.bare) =
        (right.map contribution).map (Except.map Slot.bare) := by
    rw [List.map_map, List.map_map]
    exact map_eq_map_of_forall₂ sameContribution related
  rw [← render_text_bare (firstAccepted.addAll _),
    ← render_text_bare (secondAccepted.addAll _),
    bare_addAll, bare_addAll, sameStatement, contributions]

end Statement

namespace Predicate

/-- Trees with the same columns, comparisons and combinations.  Compared
operands agree on being null, and lists of operands on their length. -/
inductive Alike : Predicate → Predicate → Prop where
  | compare (table column : String) (comparison : Comparison)
      {first second : Value} (nullness : first.isNull = second.isNull) :
      Alike (.compare table column comparison first)
        (.compare table column comparison second)
  | among (table column : String) {first second : List Value}
      (length : first.length = second.length) :
      Alike (.among table column first) (.among table column second)
  | both {left left' right right' : Predicate} :
      Alike left left' → Alike right right' →
      Alike (.both left right) (.both left' right')
  | either {left left' right right' : Predicate} :
      Alike left left' → Alike right right' →
      Alike (.either left right) (.either left' right')

namespace Alike

theorem sql_eq {first second : Predicate} (alike : Alike first second) :
    first.sql = second.sql := by
  induction alike with
  | compare table column comparison nullness =>
      simp only [sql, relation, nullness]
  | among table column length =>
      simp only [sql, List.map_const', length]
  | both _ _ leftInduction rightInduction =>
      simp only [sql, leftInduction, rightInduction]
  | either _ _ leftInduction rightInduction =>
      simp only [sql, leftInduction, rightInduction]

theorem checkTable_eq {first second : Predicate} (alike : Alike first second)
    (table : String) : first.checkTable table = second.checkTable table := by
  induction alike with
  | compare table column comparison nullness => rfl
  | among table column length => rfl
  | both _ _ leftInduction rightInduction =>
      simp only [checkTable, leftInduction, rightInduction]
  | either _ _ leftInduction rightInduction =>
      simp only [checkTable, leftInduction, rightInduction]

end Alike

end Predicate

theorem Slot.bare_ofPredicate {first second : Predicate}
    (alike : first.Alike second) (table : String) :
    (Slot.ofPredicate table first).map Slot.bare =
      (Slot.ofPredicate table second).map Slot.bare := by
  unfold Slot.ofPredicate
  rw [alike.checkTable_eq, alike.sql_eq]
  cases second.checkTable table <;> rfl

/-- Assignments to the same column by the same operation. -/
structure Assignment.Alike (first second : Assignment) : Prop where
  table : first.table = second.table
  column : first.column = second.column
  operation : first.operation = second.operation

theorem Assignment.Alike.sql_eq {first second : Assignment}
    (alike : first.Alike second) : first.render.sql = second.render.sql := by
  simp only [render, alike.column, alike.operation]

/-- The same calls on a select, up to operands. -/
inductive SelectCall.Alike : SelectCall → SelectCall → Prop where
  | filter {first second : Predicate} :
      first.Alike second → Alike (.filter first) (.filter second)
  | orderBy (columns : List Column) (direction : Direction) :
      Alike (.orderBy columns direction) (.orderBy columns direction)
  | limit (first second : Int64) : Alike (.limit first) (.limit second)
  | offset (first second : Int64) : Alike (.offset first) (.offset second)
  | groupBy (columns : List Column) :
      Alike (.groupBy columns) (.groupBy columns)

theorem SelectCall.Alike.bare_slot_eq {first second : SelectCall}
    (alike : first.Alike second) (table : String) :
    (first.slot table).map Slot.bare = (second.slot table).map Slot.bare := by
  cases alike with
  | filter predicates => exact Slot.bare_ofPredicate predicates table
  | orderBy columns direction => rfl
  | limit first second => rfl
  | offset first second => rfl
  | groupBy columns => rfl

/-- The same calls on an update, up to operands. -/
inductive UpdateCall.Alike : UpdateCall → UpdateCall → Prop where
  | filter {first second : Predicate} :
      first.Alike second → Alike (.filter first) (.filter second)
  | returning (columns : List Column) :
      Alike (.returning columns) (.returning columns)
  | returningAll : Alike .returningAll .returningAll
  | orderBy (columns : List Column) (direction : Direction) :
      Alike (.orderBy columns direction) (.orderBy columns direction)
  | limit (first second : Int64) : Alike (.limit first) (.limit second)
  | offset (first second : Int64) : Alike (.offset first) (.offset second)

theorem UpdateCall.Alike.bare_slot_eq {first second : UpdateCall}
    (alike : first.Alike second) (table : String) :
    (first.slot table).map Slot.bare = (second.slot table).map Slot.bare := by
  cases alike with
  | filter predicates => exact Slot.bare_ofPredicate predicates table
  | returning columns => rfl
  | returningAll => rfl
  | orderBy columns direction => rfl
  | limit first second => rfl
  | offset first second => rfl

/-- The same calls on a delete, up to operands. -/
inductive DeleteCall.Alike : DeleteCall → DeleteCall → Prop where
  | filter {first second : Predicate} :
      first.Alike second → Alike (.filter first) (.filter second)
  | returning (columns : List Column) :
      Alike (.returning columns) (.returning columns)
  | returningAll : Alike .returningAll .returningAll

theorem DeleteCall.Alike.bare_slot_eq {first second : DeleteCall}
    (alike : first.Alike second) (table : String) :
    (first.slot table).map Slot.bare = (second.slot table).map Slot.bare := by
  cases alike with
  | filter predicates => exact Slot.bare_ofPredicate predicates table
  | returning columns => rfl
  | returningAll => rfl

theorem Update.bare_assignmentSlot {first second : List Assignment}
    (alike : List.Forall₂ Assignment.Alike first second) :
    (assignmentSlot first).bare = (assignmentSlot second).bare := by
  have texts :
      first.map (·.render.sql) = second.map (·.render.sql) :=
    map_eq_map_of_forall₂ Assignment.Alike.sql_eq alike
  simp only [assignmentSlot, Slot.bare, List.map_map, Function.comp_def, texts]

theorem Update.bare_ofAssignments {first second : List Assignment}
    (alike : List.Forall₂ Assignment.Alike first second) :
    (ofAssignments first).statement.bare =
      (ofAssignments second).statement.bare := by
  cases alike with
  | nil => rfl
  | @cons leading leading' others others' heads tails =>
      have tables : others.map (·.table) = others'.map (·.table) :=
        map_eq_map_of_forall₂ Assignment.Alike.table tails
      have slots := bare_assignmentSlot (.cons heads tails)
      have strangers :
          (others.find? (·.table ≠ leading.table)).map (·.table) =
            (others'.find? (·.table ≠ leading'.table)).map (·.table) := by
        have searched := congrArg (List.find? (· ≠ leading.table)) tables
        rw [List.find?_map, List.find?_map] at searched
        rw [← heads.table]
        exact searched
      cases found : others.find? (·.table ≠ leading.table) with
      | some other =>
          rw [found] at strangers
          obtain ⟨other', found', same⟩ :=
            Option.map_eq_some_iff.mp strangers.symm
          simp only [ofAssignments, assigning_of_other found,
            assigning_of_other found', heads.table, same]
      | none =>
          rw [found] at strangers
          have found' := Option.map_eq_none_iff.mp strangers.symm
          simp only [ofAssignments, assigning_of_single found,
            assigning_of_single found', Statement.bare, List.map_cons,
            List.map_nil, slots, heads.table]

namespace Record

/-- Keys are unset in the one record where they are in the other. -/
def SameUnsetKeys :
    {fields : List EntityField} → (first second : Record fields) → Prop
  | _, .nil, .nil => True
  | field :: _, .cons first firsts, .cons second seconds =>
      (field.isKey = true →
        (field.type.toValue first).isUnset =
          (field.type.toValue second).isUnset) ∧
      SameUnsetKeys firsts seconds

end Record

namespace Insert

theorem names_eq_of_sameUnsetKeys {fields : List EntityField}
    {first second : Record fields} (same : first.SameUnsetKeys second)
    (fieldOf : EntityField → Field)
    (key : ∀ field, (fieldOf field).isKey = field.isKey) :
    (((fields.map fieldOf).zip first.values).filter
        fun (field, value) => !isLeftOut field value).map (·.1.name) =
      (((fields.map fieldOf).zip second.values).filter
        fun (field, value) => !isLeftOut field value).map (·.1.name) := by
  induction fields with
  | nil => rfl
  | cons field fields induction =>
      cases first with
      | cons first firsts =>
          cases second with
          | cons second seconds =>
              obtain ⟨headSame, tailSame⟩ := same
              have leftOut :
                  isLeftOut (fieldOf field) (field.type.toValue first) =
                    isLeftOut (fieldOf field)
                      (field.type.toValue second) := by
                unfold isLeftOut
                rw [key]
                cases isKey : field.isKey with
                | false => rfl
                | true => exact headSame isKey
              simp only [List.map_cons, Record.values, List.zip_cons_cons,
                List.filter_cons, leftOut]
              split
              · simp only [List.map_cons, induction tailSame]
              · exact induction tailSame

theorem names_ofRecord_eq {entity : Entity} {first second : entity.Record}
    (same : first.SameUnsetKeys second) :
    (ofRecord entity first).bindings.map (·.1) =
      (ofRecord entity second).bindings.map (·.1) := by
  have names := names_eq_of_sameUnsetKeys same
    (fun field =>
      { Field.ofType field.name field.type with isKey := field.isKey })
    (fun _ => rfl)
  simpa only [ofRecord, ofValues, Entity.schema, List.map_map,
    Function.comp_def] using names

end Insert

/-- Operand values never reach the text: selects, updates and deletes that
differ in operands only fail alike or have one text, and so do the inserts of
records that leave out the same keys. -/
theorem text_build_eq_of_alike :
    (∀ (selection : Selection) (left right : List SelectCall),
      List.Forall₂ SelectCall.Alike left right →
        ((Select.ofSelection selection).chain left).build.map Query.sql =
          ((Select.ofSelection selection).chain right).build.map Query.sql) ∧
    (∀ (first second : List Assignment) (left right : List UpdateCall),
      List.Forall₂ Assignment.Alike first second →
      List.Forall₂ UpdateCall.Alike left right →
        ((Update.ofAssignments first).chain left).build.map Query.sql =
          ((Update.ofAssignments second).chain right).build.map Query.sql) ∧
    (∀ (selection : Selection) (left right : List DeleteCall),
      List.Forall₂ DeleteCall.Alike left right →
        ((Delete.ofSelection selection).chain left).build.map Query.sql =
          ((Delete.ofSelection selection).chain right).build.map Query.sql) ∧
    (∀ (entity : Entity) (first second : entity.Record) (mode : WriteMode),
      first.SameUnsetKeys second →
        ∃ sql,
          ((Insert.ofRecord entity first).withMode mode).build.map
              Query.sql = .ok sql ∧
            ((Insert.ofRecord entity second).withMode mode).build.map
              Query.sql = .ok sql) := by
  refine ⟨?_, ?_, ?_, ?_⟩
  · intro selection left right alike
    have accepted := Select.accepted_ofSelection selection
    rw [Select.build, Select.build, Select.statement_chain,
      Select.statement_chain]
    exact Statement.text_addAll_eq accepted accepted rfl
      (fun call => call.bare_slot_eq _) alike
  · intro first second left right assignments alike
    have sameStatement := Update.bare_ofAssignments assignments
    have tables := congrArg Statement.table sameStatement
    have sameTable :
        (Update.ofAssignments first).statement.table =
          (Update.ofAssignments second).statement.table := tables
    rw [Update.build, Update.build, Update.statement_chain,
      Update.statement_chain, sameTable]
    exact Statement.text_addAll_eq (Update.accepted_ofAssignments first)
      (Update.accepted_ofAssignments second) sameStatement
      (fun call => call.bare_slot_eq _) alike
  · intro selection left right alike
    have accepted := Delete.accepted_ofSelection selection
    rw [Delete.build, Delete.build, Delete.statement_chain,
      Delete.statement_chain]
    exact Statement.text_addAll_eq accepted accepted rfl
      (fun call => call.bare_slot_eq _) alike
  · intro entity first second mode same
    have names := Insert.names_ofRecord_eq same
    have built : ∀ record : entity.Record,
        ((Insert.ofRecord entity record).withMode mode).build.map Query.sql =
          .ok (Insert.text mode entity.schema.tableName
            ((Insert.ofRecord entity record).bindings.map (·.1))) := by
      intro record
      rw [Insert.build_of_noError rfl]
      rfl
    refine ⟨_, built first, ?_⟩
    rw [names]
    exact built second

theorem text_build_eq_of_alike_people :
    let young : Predicate := .among "people" "name" [.text "O'Hara", .null]
    let old : Predicate :=
      .among "people" "name" [.text "? --", .bytes ByteArray.empty]
    let age : Column :=
      { table := "people"
        name := "age"
        kind := .integer
        nullable := false
        aggregation := .plain }
    let raise (years : Int64) : Assignment :=
      { table := "people"
        column := "age"
        operation := .add
        operand := .integer years }
    let person : Entity :=
      { name := "People"
        fields :=
          [{ name := "id", type := .required .int64, isKey := true },
            { name := "name", type := .required .string, isKey := false }]
        foreignKeys := [] }
    let ofName (name : String) : person.Record :=
      .cons (0 : Int64) (.cons name .nil)
    ((Select.ofSelection (.columns [age])).chain
          [.filter young, .limit 1]).build.map Query.sql =
        ((Select.ofSelection (.columns [age])).chain
          [.filter old, .limit 2]).build.map Query.sql ∧
      ((Update.ofAssignments [raise 1]).chain [.filter young]).build.map
          Query.sql =
        ((Update.ofAssignments [raise 2]).chain [.filter old]).build.map
          Query.sql ∧
      ((Delete.ofSelection (.records person)).chain [.filter young]).build.map
          Query.sql =
        ((Delete.ofSelection (.records person)).chain [.filter old]).build.map
          Query.sql ∧
      ∃ sql,
        ((Insert.ofRecord person (ofName "Ada")).withMode .replace).build.map
            Query.sql = .ok sql ∧
          ((Insert.ofRecord person (ofName "?")).withMode .replace).build.map
            Query.sql = .ok sql := by
  intro young old age raise person ofName
  obtain ⟨selects, updates, deletes, inserts⟩ := text_build_eq_of_alike
  have alike : young.Alike old := .among "people" "name" rfl
  refine ⟨?_, ?_, ?_, ?_⟩
  · exact selects _ _ _ (.cons (.filter alike) (.cons (.limit 1 2) .nil))
  · exact updates _ _ _ _ (.cons ⟨rfl, rfl, rfl⟩ .nil)
      (.cons (.filter alike) .nil)
  · exact deletes _ _ _ (.cons (.filter alike) .nil)
  · have sameKeys : (ofName "Ada").SameUnsetKeys (ofName "?") :=
      ⟨fun _ => rfl, nofun, trivial⟩
    exact inserts person _ _ .replace sameKeys

end TypedSql
