import TypedSql.Proofs.Statement.Builder

/-!
# The order of calls

A statement does not depend on the order in which its clauses were added.  The
order of calls shows only in an error that a call records by itself: of several
such errors, the first one counts.
-/

namespace TypedSql

namespace Slot

theorem find?_eq_of_perm {left right : List Slot} {clause : Clause}
    (permutation : left.Perm right)
    (single : ¬2 ≤ (left.map (·.clause)).count clause) :
    left.find? (·.clause = clause) = right.find? (·.clause = clause) := by
  have filled : (filling left clause).Perm (filling right clause) :=
    permutation.filter _
  have same : filling left clause = filling right clause := by
    rw [← length_filling] at single
    match block : filling left clause with
    | [] =>
        rw [block] at filled
        exact (List.nil_perm.mp filled).symm
    | [slot] =>
        rw [block] at filled
        exact List.singleton_perm.mp filled
    | first :: second :: rest => simp [block] at single
  rw [← List.head?_filter, ← List.head?_filter]
  exact congrArg List.head? same

end Slot

namespace Statement

/-- Where no clause is repeated, what stands at the places of the clauses does
not depend on the order of the slots. -/
theorem arrange_perm (kind : StatementKind) {left right : List Slot}
    (permutation : left.Perm right)
    (single : ∀ clause ∈ kind.clauses,
      ¬2 ≤ (left.map (·.clause)).count clause) :
    kind.arrange Slot.clause Slot.unlimited left =
      kind.arrange Slot.clause Slot.unlimited right := by
  have offset : .offset ∈ left.map Slot.clause ↔
      .offset ∈ right.map Slot.clause :=
    (permutation.map Slot.clause).mem_iff
  apply List.filterMap_congr
  intro clause member
  have found := Slot.find?_eq_of_perm permutation (single clause member)
  simp only [StatementKind.placed?, found, offset]

theorem assemble_perm (kind : StatementKind) (firstError : Option Error)
    {left right : List Slot} (permutation : left.Perm right) :
    assemble kind firstError left = assemble kind firstError right := by
  have present := permutation.map Slot.clause
  have member : ∀ clause,
      clause ∈ left.map (·.clause) ↔ clause ∈ right.map (·.clause) :=
    fun _ => present.mem_iff
  have count : ∀ clause,
      (left.map (·.clause)).count clause =
        (right.map (·.clause)).count clause :=
    fun clause => present.count_eq clause
  unfold assemble
  cases firstError with
  | some error => rfl
  | none =>
      simp only [member, ← count]
      cases twice :
          kind.clauses.find? (2 ≤ (left.map (·.clause)).count ·) with
      | some clause => rfl
      | none =>
          have single : ∀ clause ∈ kind.clauses,
              ¬2 ≤ (left.map (·.clause)).count clause := by
            simpa using twice
          rw [arrange_perm kind permutation single]

theorem render_run_perm {statement : Statement}
    (accepted : statement.Accepted) {left right : List Step}
    (permutation : left.Perm right)
    (faultless : ∀ next ∈ left, next.error? = none) :
    (statement.run left).render = (statement.run right).render := by
  have noneLeft : left.findSome? Step.error? = none :=
    List.findSome?_eq_none_iff.mpr faultless
  have noneRight : right.findSome? Step.error? = none := by
    apply List.findSome?_eq_none_iff.mpr
    intro next member
    exact faultless next (permutation.mem_iff.mpr member)
  rw [render_run accepted, render_run accepted, noneLeft, noneRight]
  exact assemble_perm _ _ ((permutation.filterMap _).append_left _)

theorem render_addAll_perm {statement : Statement}
    (accepted : statement.Accepted) {left right : List (Except Error Slot)}
    (permutation : left.Perm right)
    (faultless : ∀ slot ∈ left, fault? statement.kind slot = none) :
    (statement.addAll left).render = (statement.addAll right).render := by
  rw [addAll_eq_run, addAll_eq_run]
  apply render_run_perm accepted (permutation.map _)
  intro next member
  obtain ⟨slot, slotMember, rfl⟩ := List.mem_map.mp member
  exact faultless slot slotMember

theorem render_addAll_of_error {statement : Statement}
    (accepted : statement.Accepted)
    {contributions : List (Except Error Slot)} {error : Error}
    (first :
      statement.error.or (contributions.findSome? (fault? statement.kind)) =
        some error) :
    (statement.addAll contributions).render = .error error := by
  rw [render_addAll accepted, first]
  rfl

/-- A statement that begins with an error is not built. -/
theorem render_addAll_of_initial {statement : Statement}
    (accepted : statement.Accepted) {error : Error}
    (initial : statement.error = some error)
    (contributions : List (Except Error Slot)) :
    (statement.addAll contributions).render = .error error := by
  apply render_addAll_of_error accepted
  rw [initial]
  exact Option.some_or

theorem faultless_of_render_addAll {statement : Statement}
    (accepted : statement.Accepted)
    {contributions : List (Except Error Slot)} {query : Query}
    (built : (statement.addAll contributions).render = .ok query) :
    ∀ slot ∈ contributions, fault? statement.kind slot = none := by
  rw [render_addAll accepted] at built
  obtain ⟨noError, -⟩ := of_assemble_eq_ok built
  obtain ⟨-, faultless⟩ := Option.or_eq_none_iff.mp noError
  exact List.findSome?_eq_none_iff.mp faultless

theorem foldlM_push {statement : Statement} {slots : List Slot}
    (accepted : ∀ slot ∈ slots, slot.clause ∈ statement.kind.clauses) :
    slots.foldlM push statement = .ok (statement.run (slots.map .push)) := by
  induction slots generalizing statement with
  | nil => rfl
  | cons slot slots induction =>
      have pushed := push_of_accepted (accepted slot (by simp))
      have stepped : statement.step (.push slot) =
          { statement with slots := statement.slots ++ [slot] } := by
        simp [step, pushed]
      rw [List.foldlM_cons, pushed, ← stepped]
      apply induction
      intro other member
      rw [stepped]
      exact accepted other (by simp [member])

end Statement

/-- How far the order of calls bears on what a builder builds.  Here `initial`
is the error of the builder, and `alone` its error after one call only. -/
structure CallOrderLaw {Call : Type} (initial : Option Error)
    (alone : Call → Option Error)
    (build : List Call → Except Error Query) : Prop where
  /-- A query is the same after a permutation. -/
  query : ∀ {left right : List Call}, left.Perm right →
    ∀ query, build left = .ok query ↔ build right = .ok query
  /-- So is a failure, where no call records an error by itself. -/
  failure : ∀ {left right : List Call}, left.Perm right → initial = none →
    (∀ call ∈ left, alone call = none) → build left = build right
  /-- Errors that were recorded take precedence, the first one above all. -/
  precedence : ∀ (calls : List Call) (error : Error),
    initial.or (calls.findSome? alone) = some error →
      build calls = .error error

theorem callOrderLaw_of_contributions {Call : Type} {statement : Statement}
    (accepted : statement.Accepted)
    (contribution : Call → Except Error Slot) :
    CallOrderLaw statement.error
      (fun call => (statement.add (contribution call)).error)
      (fun calls => (statement.addAll (calls.map contribution)).render) := by
  have query : ∀ {left right : List Call}, left.Perm right → ∀ query,
      (statement.addAll (left.map contribution)).render = .ok query →
      (statement.addAll (right.map contribution)).render = .ok query := by
    intro left right permutation query built
    have same :=
      Statement.render_addAll_perm accepted (permutation.map contribution)
        (Statement.faultless_of_render_addAll accepted built)
    rw [← same]
    exact built
  constructor
  case query =>
    intro left right permutation built
    exact ⟨query permutation built, query permutation.symm built⟩
  case failure =>
    intro left right permutation noError alone
    apply Statement.render_addAll_perm accepted
      (permutation.map contribution)
    intro slot member
    obtain ⟨call, callMember, rfl⟩ := List.mem_map.mp member
    have own := alone call callMember
    rw [Statement.add_error, noError, Option.none_or] at own
    exact own
  case precedence =>
    intro calls error first
    apply Statement.render_addAll_of_error accepted
    cases initial : statement.error with
    | some own => simpa [initial] using first
    | none =>
        simpa [initial, Statement.add_error, List.findSome?_map,
          Function.comp_def] using first

/-- The order of chained calls never changes a query, nor an error, apart from
those that calls record by themselves; and accepted slots may be pushed onto a
statement of any kind in any order. -/
theorem build_chain_perm :
    (∀ selection : Selection,
      let select := Select.ofSelection selection
      CallOrderLaw select.statement.error
        (fun call => (select.call call).statement.error)
        (fun calls => (select.chain calls).build)) ∧
    (∀ assignments : List Assignment,
      let update := Update.ofAssignments assignments
      CallOrderLaw update.statement.error
        (fun call => (update.call call).statement.error)
        (fun calls => (update.chain calls).build)) ∧
    (∀ selection : Selection,
      let delete := Delete.ofSelection selection
      CallOrderLaw delete.statement.error
        (fun call => (delete.call call).statement.error)
        (fun calls => (delete.chain calls).build)) ∧
    (∀ (kind : StatementKind) (table : String)
      (history : List Statement.Step) (left right : List Slot),
      left.Perm right → (∀ slot ∈ left, slot.clause ∈ kind.clauses) →
      let statement := (Statement.empty kind table).run history
      ∃ first second,
        left.foldlM Statement.push statement = .ok first ∧
          right.foldlM Statement.push statement = .ok second ∧
            first.render = second.render) := by
  refine ⟨?_, ?_, ?_, ?_⟩
  · intro selection select
    have law :=
      callOrderLaw_of_contributions (Select.accepted_ofSelection selection)
        (SelectCall.slot select.statement.table)
    simpa only [Select.build, Select.statement_chain, Select.call] using law
  · intro assignments update
    have law :=
      callOrderLaw_of_contributions
        (Update.accepted_ofAssignments assignments)
        (UpdateCall.slot update.statement.table)
    simpa only [Update.build, Update.statement_chain, Update.call] using law
  · intro selection delete
    have law :=
      callOrderLaw_of_contributions (Delete.accepted_ofSelection selection)
        (DeleteCall.slot delete.statement.table)
    simpa only [Delete.build, Delete.statement_chain, Delete.call] using law
  · intro kind table history left right permutation leftAccepted statement
    have sameKind : statement.kind = kind := Statement.run_kind _ _
    have rightAccepted : ∀ slot ∈ right,
        slot.clause ∈ statement.kind.clauses := by
      intro slot member
      rw [sameKind]
      exact leftAccepted slot (permutation.mem_iff.mpr member)
    rw [← sameKind] at leftAccepted
    have accepted : statement.Accepted :=
      (Statement.accepted_empty kind table).run history
    refine ⟨_, _, Statement.foldlM_push leftAccepted,
      Statement.foldlM_push rightAccepted, ?_⟩
    apply Statement.render_run_perm accepted (permutation.map _)
    intro next member
    obtain ⟨slot, -, rfl⟩ := List.mem_map.mp member
    rfl

theorem build_chain_perm_people :
    let age : Column :=
      { table := "people"
        name := "age"
        kind := .integer
        nullable := false
        aggregation := .plain }
    let select := Select.ofSelection (.columns [age])
    let raise : Assignment :=
      { table := "people"
        column := "age"
        operation := .add
        operand := .integer 1 }
    let update := Update.ofAssignments [raise]
    let delete := Delete.ofSelection (.rows (Schema.empty "People"))
    let limit := Slot.limit 5
    let offset := Slot.offset 2
    let statement := Statement.empty .select "people"
    (select.chain [.offset 2, .limit 5]).build =
        (select.chain [.limit 5, .offset 2]).build ∧
      (update.chain [.limit 5, .returning [], .limit 3]).build =
        .error (.invalidSelection "column list must not be empty") ∧
      (∀ query,
        (delete.chain [.returningAll, .returning [age]]).build = .ok query ↔
          (delete.chain [.returning [age], .returningAll]).build = .ok query) ∧
      ∃ first second,
        [limit, offset].foldlM Statement.push statement = .ok first ∧
          [offset, limit].foldlM Statement.push statement = .ok second ∧
            first.render = second.render := by
  intro age select raise update delete limit offset statement
  obtain ⟨selects, updates, deletes, pushes⟩ := build_chain_perm
  refine ⟨?_, ?_, ?_, ?_⟩
  · apply (selects (.columns [age])).failure (.swap _ _ _) rfl
    intro call member
    rcases List.mem_pair.mp member with rfl | rfl <;> rfl
  · exact (updates [raise]).precedence _ _ rfl
  · exact (deletes (.rows (Schema.empty "People"))).query (.swap _ _ _)
  · exact pushes .select "people" [] [limit, offset] [offset, limit]
      (.swap _ _ _) (by decide)

end TypedSql
