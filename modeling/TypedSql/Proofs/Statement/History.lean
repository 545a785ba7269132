import TypedSql.Proofs.Statement.Arrangement

/-!
# Histories of statements

A history is what has been done to a statement, in order.  The statement that
it leads to keeps the first error recorded and every slot whose clause is
accepted, so what it is rendered as can be read off the history itself.
-/

namespace TypedSql

namespace Statement

/-- What may be done to a statement before it is rendered. -/
inductive Step where
  | push (slot : Slot)
  | fail (error : Error)
  | check (result : Except Error Unit)

namespace Step

/-- The error that a step records.  A slot that is refused records none. -/
def error? : Step → Option Error
  | .push _ => none
  | .fail error => some error
  | .check (.ok _) => none
  | .check (.error error) => some error

/-- The slot that a step adds to a statement of a kind. -/
def slot? (kind : StatementKind) : Step → Option Slot
  | .push slot => if slot.clause ∈ kind.clauses then some slot else none
  | .fail _ => none
  | .check _ => none

end Step

/-- The statement after a step.  A slot that is refused leaves it as it was. -/
def step (statement : Statement) : Step → Statement
  | .push slot =>
      match statement.push slot with
      | .ok extended => extended
      | .error _ => statement
  | .fail error => statement.fail error
  | .check result => statement.check result

/-- The statement after a history. -/
def run (statement : Statement) (steps : List Step) : Statement :=
  steps.foldl step statement

theorem push_of_accepted {statement : Statement} {slot : Slot}
    (accepted : slot.clause ∈ statement.kind.clauses) :
    statement.push slot =
      .ok { statement with slots := statement.slots ++ [slot] } := by
  simp [push, accepted]

theorem push_of_refused {statement : Statement} {slot : Slot}
    (refused : slot.clause ∉ statement.kind.clauses) :
    statement.push slot =
      .error (.unsupportedClause statement.kind slot.clause) := by
  simp [push, refused]

/-- All that a step changes: the first error stays, and slots are added at the
end. -/
theorem step_eq (statement : Statement) (next : Step) :
    statement.step next =
      { statement with
        slots := statement.slots ++ (next.slot? statement.kind).toList
        error := statement.error.or next.error? } := by
  cases next with
  | push slot =>
      by_cases accepted : slot.clause ∈ statement.kind.clauses
      · simp [step, push_of_accepted accepted, Step.slot?, Step.error?,
          accepted]
      · simp [step, push_of_refused accepted, Step.slot?, Step.error?,
          accepted]
  | fail error => simp [step, fail, Step.slot?, Step.error?]
  | check result =>
      cases result with
      | ok => simp [step, check, Step.slot?, Step.error?]
      | error error => simp [step, check, fail, Step.slot?, Step.error?]

theorem run_eq (statement : Statement) (steps : List Step) :
    statement.run steps =
      { statement with
        slots :=
          statement.slots ++ steps.filterMap (Step.slot? statement.kind)
        error := statement.error.or (steps.findSome? Step.error?) } := by
  induction steps generalizing statement with
  | nil => simp [run]
  | cons next steps induction =>
      have unfolded :
          statement.run (next :: steps) = (statement.step next).run steps := rfl
      rw [unfolded, induction, step_eq]
      cases added : next.slot? statement.kind <;>
        cases recorded : next.error? <;>
        simp [added, recorded]

@[simp] theorem run_kind (statement : Statement) (steps : List Step) :
    (statement.run steps).kind = statement.kind := by
  simp [run_eq]

theorem Step.clause_mem_of_slot? {kind : StatementKind} {next : Step}
    {slot : Slot} (added : next.slot? kind = some slot) :
    slot.clause ∈ kind.clauses := by
  cases next with
  | push pushed =>
      by_cases accepted : pushed.clause ∈ kind.clauses
      · simp only [slot?, accepted, if_true, Option.some.injEq] at added
        rw [← added]
        exact accepted
      · simp [slot?, accepted] at added
  | fail error => simp [slot?] at added
  | check result => simp [slot?] at added

theorem accepted_empty (kind : StatementKind) (table : String) :
    (empty kind table).Accepted := by
  intro slot member
  cases member

theorem Accepted.run {statement : Statement} (accepted : statement.Accepted)
    (steps : List Step) : (statement.run steps).Accepted := by
  intro slot member
  rw [run_kind]
  rw [run_eq] at member
  rcases List.mem_append.mp member with old | added
  · exact accepted slot old
  · obtain ⟨next, -, adds⟩ := List.mem_filterMap.mp added
    exact Step.clause_mem_of_slot? adds

/-- What a statement is rendered as after a history is assembled from the first
error that the history records and the slots that it adds. -/
theorem render_run {statement : Statement} (accepted : statement.Accepted)
    (steps : List Step) :
    (statement.run steps).render =
      assemble statement.kind
        (statement.error.or (steps.findSome? Step.error?))
        (statement.slots ++ steps.filterMap (Step.slot? statement.kind)) := by
  rw [render_eq_assemble (accepted.run steps), run_eq]

/-- Rendering agrees with the walk on every statement that can be reached.  A
slot is added exactly when its clause is accepted; otherwise the answer says so
and the statement is as before. -/
theorem render_reachable (kind : StatementKind) (table : String)
    (steps : List Step) :
    let statement := (empty kind table).run steps
    statement.render =
        assemble kind (steps.findSome? Step.error?)
          (steps.filterMap (Step.slot? kind)) ∧
      ∀ slot : Slot,
        if slot.clause ∈ kind.clauses then
          statement.push slot = .ok (statement.step (.push slot)) ∧
            (statement.step (.push slot)).slots = statement.slots ++ [slot]
        else
          statement.push slot = .error (.unsupportedClause kind slot.clause) ∧
            statement.step (.push slot) = statement := by
  intro statement
  constructor
  · simpa [statement, empty] using render_run (accepted_empty kind table) steps
  · intro slot
    have sameKind : statement.kind = kind := run_kind _ _
    split
    case isTrue accepted =>
      rw [← sameKind] at accepted
      simp [step, push_of_accepted accepted]
    case isFalse refused =>
      rw [← sameKind] at refused
      simp [step, push_of_refused refused, sameKind]

end Statement

end TypedSql
