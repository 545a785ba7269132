import TypedSql.Proofs.Statement.History
import TypedSql.Statement.Delete
import TypedSql.Statement.Select
import TypedSql.Statement.Update

/-!
# Builders as histories

Every call on a builder contributes a slot or an error, and what it contributes
depends on nothing but the table and its own arguments.  A chain of calls is
therefore a history of the builder's statement.
-/

namespace TypedSql

/-- The clause of a slot with its text. -/
def Slot.entry (slot : Slot) : Clause × String :=
  (slot.clause, slot.sql)

namespace Statement

/-- The step that a contribution amounts to.  A slot that is refused counts as
an error. -/
def Step.ofContribution (kind : StatementKind) : Except Error Slot → Step
  | .ok slot =>
      if slot.clause ∈ kind.clauses then .push slot
      else .fail (.unsupportedClause kind slot.clause)
  | .error error => .fail error

theorem add_eq_step (statement : Statement) (slot : Except Error Slot) :
    statement.add slot =
      statement.step (Step.ofContribution statement.kind slot) := by
  cases slot with
  | error error => rfl
  | ok slot =>
      by_cases accepted : slot.clause ∈ statement.kind.clauses
      · have pushed := push_of_accepted accepted
        simp [add, Step.ofContribution, step, accepted, pushed, bind,
          Except.bind]
      · have refused := push_of_refused accepted
        simp [add, Step.ofContribution, step, accepted, refused, bind,
          Except.bind]

@[simp] theorem add_kind (statement : Statement) (slot : Except Error Slot) :
    (statement.add slot).kind = statement.kind := by
  rw [add_eq_step, step_eq]

@[simp] theorem add_table (statement : Statement) (slot : Except Error Slot) :
    (statement.add slot).table = statement.table := by
  rw [add_eq_step, step_eq]

/-- The error that a contribution would leave on a statement without one. -/
def fault? (kind : StatementKind) (contribution : Except Error Slot) :
    Option Error :=
  (Step.ofContribution kind contribution).error?

theorem add_error (statement : Statement) (slot : Except Error Slot) :
    (statement.add slot).error =
      statement.error.or (fault? statement.kind slot) := by
  rw [add_eq_step, step_eq]
  rfl

theorem addAll_eq_run (statement : Statement)
    (slots : List (Except Error Slot)) :
    statement.addAll slots =
      statement.run (slots.map (Step.ofContribution statement.kind)) := by
  induction slots generalizing statement with
  | nil => rfl
  | cons slot slots induction =>
      have unfolded :
          statement.addAll (slot :: slots) =
            (statement.add slot).addAll slots := rfl
      rw [unfolded, induction, add_kind, add_eq_step]
      rfl

/-- Calls that add one contribution each, which depends on the table and their
own arguments, add all of them together. -/
theorem addAll_of_foldl {Builder Call : Type}
    {statementOf : Builder → Statement} {call : Builder → Call → Builder}
    {contribution : String → Call → Except Error Slot}
    (adds : ∀ builder next,
      statementOf (call builder next) =
        (statementOf builder).add
          (contribution (statementOf builder).table next))
    (builder : Builder) (calls : List Call) :
    statementOf (calls.foldl call builder) =
      (statementOf builder).addAll
        (calls.map (contribution (statementOf builder).table)) := by
  induction calls generalizing builder with
  | nil => rfl
  | cons next calls induction =>
      have sameTable :
          (statementOf (call builder next)).table =
            (statementOf builder).table := by
        rw [adds, add_table]
      rw [List.foldl_cons, induction, sameTable, adds]
      rfl

theorem Accepted.addAll {statement : Statement}
    (accepted : statement.Accepted) (slots : List (Except Error Slot)) :
    (statement.addAll slots).Accepted := by
  rw [addAll_eq_run]
  exact accepted.run _

theorem Accepted.fail {statement : Statement} (accepted : statement.Accepted)
    (error : Error) : (statement.fail error).Accepted :=
  accepted

theorem Step.ok_of_fault?_eq_none {kind : StatementKind}
    {contribution : Except Error Slot}
    (faultless : fault? kind contribution = none) :
    ∃ slot, contribution = .ok slot ∧
      (Step.ofContribution kind contribution).slot? kind = some slot := by
  cases contribution with
  | error error => cases faultless
  | ok slot =>
      by_cases accepted : slot.clause ∈ kind.clauses
      · exact ⟨slot, rfl, by simp [ofContribution, slot?, accepted]⟩
      · simp [fault?, ofContribution, accepted, error?] at faultless

/-- Contributions without an error are slots, all of which are added. -/
theorem slots_of_faultless {kind : StatementKind}
    {contributions : List (Except Error Slot)}
    (faultless : contributions.findSome? (fault? kind) = none) :
    ∃ slots : List Slot,
      contributions = slots.map Except.ok ∧
        (contributions.map (Step.ofContribution kind)).filterMap
          (Step.slot? kind) = slots := by
  induction contributions with
  | nil => exact ⟨[], rfl, rfl⟩
  | cons contribution contributions induction =>
      rw [List.findSome?_cons] at faultless
      cases recorded : fault? kind contribution with
      | some error => simp [recorded] at faultless
      | none =>
          rw [recorded] at faultless
          obtain ⟨slot, isSlot, added⟩ := Step.ok_of_fault?_eq_none recorded
          obtain ⟨slots, areSlots, restAdded⟩ := induction faultless
          refine ⟨slot :: slots, ?_, ?_⟩
          · rw [isSlot, areSlots]
            rfl
          · rw [List.map_cons, List.filterMap_cons_some added, restAdded]

theorem render_addAll {statement : Statement} (accepted : statement.Accepted)
    (contributions : List (Except Error Slot)) :
    (statement.addAll contributions).render =
      assemble statement.kind
        (statement.error.or (contributions.findSome? (fault? statement.kind)))
        (statement.slots ++
          (contributions.map (Step.ofContribution statement.kind)).filterMap
            (Step.slot? statement.kind)) := by
  rw [addAll_eq_run, render_run accepted, List.findSome?_map]
  rfl

/-- A query is built only if nothing went wrong: every contribution is a slot,
and all of them are added. -/
theorem addAll_of_render_eq_ok {statement : Statement}
    (accepted : statement.Accepted) {contributions : List (Except Error Slot)}
    {query : Query}
    (built : (statement.addAll contributions).render = .ok query) :
    statement.error = none ∧
      ∃ slots : List Slot,
        contributions = slots.map Except.ok ∧
          statement.addAll contributions =
            { statement with slots := statement.slots ++ slots } := by
  rw [render_addAll accepted] at built
  obtain ⟨noError, -⟩ := of_assemble_eq_ok built
  obtain ⟨initial, faultless⟩ := Option.or_eq_none_iff.mp noError
  obtain ⟨slots, areSlots, added⟩ := slots_of_faultless faultless
  refine ⟨initial, slots, areSlots, ?_⟩
  rw [addAll_eq_run, run_eq, added, List.findSome?_map]
  exact congrArg _ (noError.trans initial.symm)

/-- The query is what the walk takes from all slots. -/
theorem of_render_addAll_eq_ok {statement : Statement}
    (accepted : statement.Accepted) {contributions : List (Except Error Slot)}
    {query : Query}
    (built : (statement.addAll contributions).render = .ok query) :
    statement.error = none ∧
      ∃ slots : List Slot,
        contributions = slots.map Except.ok ∧
          query =
            querying
              (statement.kind.arrange Slot.clause Slot.unlimited
                (statement.slots ++ slots)) := by
  obtain ⟨initial, slots, areSlots, whole⟩ :=
    addAll_of_render_eq_ok accepted built
  have assembled := render_eq_assemble (accepted.addAll contributions)
  rw [built, whole] at assembled
  exact ⟨initial, slots, areSlots, (of_assemble_eq_ok assembled.symm).2⟩

/-- What is the same for each call and the slot that it adds is the same for all
calls and their slots. -/
theorem map_of_contributed {Call α : Type}
    {contribution : Call → Except Error Slot} {value : Slot → α}
    {valueOf : Call → α}
    (same : ∀ {call slot}, contribution call = .ok slot →
      value slot = valueOf call)
    {calls : List Call} {slots : List Slot}
    (contributed : calls.map contribution = slots.map Except.ok) :
    slots.map value = calls.map valueOf := by
  induction calls generalizing slots with
  | nil =>
      cases slots with
      | nil => rfl
      | cons slot slots => cases contributed
  | cons call calls induction =>
      cases slots with
      | nil => cases contributed
      | cons slot slots =>
          obtain ⟨first, rest⟩ := List.cons.inj contributed
          rw [List.map_cons, List.map_cons, same first, induction rest]

/-- The clauses of a statement with their texts, in the order in which they are
written. -/
def written (statement : Statement) : List (Clause × String) :=
  statement.orderedSlots.map Slot.entry

theorem sql_of_render_eq_ok {statement : Statement}
    (accepted : statement.Accepted) {query : Query}
    (rendered : statement.render = .ok query) :
    query.sql = " ".intercalate (statement.written.map (·.2)) := by
  obtain ⟨-, isQuery⟩ := orderedSlots_of_render_eq_ok accepted rendered
  rw [isQuery, written, List.map_map]
  rfl

theorem written_of_render_eq_ok {statement : Statement}
    (accepted : statement.Accepted) {Call : Type}
    {contribution : Call → Except Error Slot} {calls : List Call}
    {query : Query}
    (built : (statement.addAll (calls.map contribution)).render = .ok query) :
    ∃ slots : List Slot, calls.map contribution = slots.map Except.ok ∧
      (statement.addAll (calls.map contribution)).written =
        (statement.kind.arrange Slot.clause Slot.unlimited
          (statement.slots ++ slots)).map Slot.entry := by
  obtain ⟨-, slots, contributed, whole⟩ :=
    addAll_of_render_eq_ok accepted built
  obtain ⟨arranged, -⟩ :=
    orderedSlots_of_render_eq_ok (accepted.addAll _) built
  refine ⟨slots, contributed, ?_⟩
  rw [written, arranged, whole]

end Statement

namespace Select

theorem projection_of_ok {first : Column} {others : List Column}
    {list : String}
    (written :
      ColumnList.write first.table (first :: others) Column.render =
        .ok list) :
    projection (first :: others) =
      { kind := .select
        table := first.table
        slots :=
          [Slot.ofText .select ("SELECT " ++ list),
            Slot.ofText .source ("FROM " ++ first.table)]
        error := none } := by
  simp only [projection, written]
  rfl

theorem projection_of_error {first : Column} {others : List Column}
    {error : Error}
    (refused :
      ColumnList.write first.table (first :: others) Column.render =
        .error error) :
    projection (first :: others) =
      { kind := .select
        table := first.table
        slots := []
        error := some error } := by
  simp only [projection, refused]
  rfl

theorem kind_ofSelection (selection : Selection) :
    (ofSelection selection).statement.kind = .select := by
  cases selection with
  | records entity => rfl
  | rows schema => rfl
  | columns columns =>
      cases columns with
      | nil => rfl
      | cons first others =>
          simp only [ofSelection, projection]
          split <;> rfl

theorem accepted_ofSelection (selection : Selection) :
    (ofSelection selection).statement.Accepted := by
  cases selection with
  | records entity => exact (Statement.accepted_empty _ _).addAll _
  | rows schema => exact (Statement.accepted_empty _ _).addAll _
  | columns columns =>
      cases columns with
      | nil => exact (Statement.accepted_empty _ _).fail _
      | cons first others =>
          simp only [ofSelection, projection]
          split
          · exact (Statement.accepted_empty _ _).addAll _
          · exact (Statement.accepted_empty _ _).fail _

theorem statement_chain (select : Select) (calls : List SelectCall) :
    (select.chain calls).statement =
      select.statement.addAll
        (calls.map (SelectCall.slot select.statement.table)) :=
  Statement.addAll_of_foldl (fun _ _ => rfl) select calls

end Select

namespace Update

theorem assigning_of_single {first : Assignment} {others : List Assignment}
    (single : others.find? (·.table ≠ first.table) = none) :
    assigning (first :: others) =
      { kind := .update
        table := first.table
        slots :=
          [Slot.ofText .update ("UPDATE " ++ first.table),
            assignmentSlot (first :: others)]
        error := none } := by
  simp only [assigning, single]
  rfl

theorem assigning_of_other {first other : Assignment}
    {others : List Assignment}
    (found : others.find? (·.table ≠ first.table) = some other) :
    assigning (first :: others) =
      { kind := .update
        table := first.table
        slots := []
        error := some (.crossTable first.table other.table) } := by
  simp only [assigning, found]
  rfl

theorem kind_ofAssignments (assignments : List Assignment) :
    (ofAssignments assignments).statement.kind = .update := by
  cases assignments with
  | nil => rfl
  | cons first others =>
      simp only [ofAssignments, assigning]
      split <;> rfl

theorem accepted_ofAssignments (assignments : List Assignment) :
    (ofAssignments assignments).statement.Accepted := by
  cases assignments with
  | nil => exact (Statement.accepted_empty _ _).fail _
  | cons first others =>
      simp only [ofAssignments, assigning]
      split
      · exact (Statement.accepted_empty _ _).fail _
      · exact (Statement.accepted_empty _ _).addAll _

theorem statement_chain (update : Update) (calls : List UpdateCall) :
    (update.chain calls).statement =
      update.statement.addAll
        (calls.map (UpdateCall.slot update.statement.table)) :=
  Statement.addAll_of_foldl (fun _ _ => rfl) update calls

end Update

namespace Delete

theorem kind_ofSelection (selection : Selection) :
    (ofSelection selection).statement.kind = .delete := by
  cases selection <;> rfl

theorem accepted_ofSelection (selection : Selection) :
    (ofSelection selection).statement.Accepted := by
  cases selection with
  | records entity => exact (Statement.accepted_empty _ _).addAll _
  | rows schema => exact (Statement.accepted_empty _ _).addAll _
  | columns columns => exact (Statement.accepted_empty _ _).fail _

theorem statement_chain (delete : Delete) (calls : List DeleteCall) :
    (delete.chain calls).statement =
      delete.statement.addAll
        (calls.map (DeleteCall.slot delete.statement.table)) :=
  Statement.addAll_of_foldl (fun _ _ => rfl) delete calls

end Delete

end TypedSql
