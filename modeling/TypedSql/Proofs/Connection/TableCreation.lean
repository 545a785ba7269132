import TypedSql.Connection.Execution
import TypedSql.Proofs.Connection.Catalog
import TypedSql.Proofs.Connection.Recording

/-!
# Tables created once

Ensuring a table looks into the catalog first, so a table that is there is left
alone.  Nothing removes a table from the catalog, and therefore a table that
was ensured or created is there ever after, whatever else is called and
whatever fails.
-/

namespace TypedSql

section

variable {σ : Type}

/-- How the table of a schema is ensured: the requests with their answers, the
outcome, and the state in which it ends.  The first failure ends it. -/
inductive Ensures (connection : Connection σ) (schema : Schema) (state : σ) :
    List Exchange → Except Error Unit → σ → Prop where
  | unread {failure : String} {after : σ} :
      (connection.tableExists schema.tableName).run.run state =
        (.error failure, after) →
      Ensures connection schema state
        [.tableExists schema.tableName (.error failure)]
        (.error (.storage failure)) after
  | listed {after : σ} :
      (connection.tableExists schema.tableName).run.run state =
        (.ok true, after) →
      Ensures connection schema state
        [.tableExists schema.tableName (.ok true)] (.ok ()) after
  | refused {failure : String} {looked after : σ} :
      (connection.tableExists schema.tableName).run.run state =
        (.ok false, looked) →
      (connection.exec schema.createStatement []).run.run looked =
        (.error failure, after) →
      Ensures connection schema state
        [.tableExists schema.tableName (.ok false),
          .exec schema.createStatement [] (.error failure)]
        (.error (.storage failure)) after
  | uncommitted {failure : String} {count : Nat} {looked created after : σ} :
      (connection.tableExists schema.tableName).run.run state =
        (.ok false, looked) →
      (connection.exec schema.createStatement []).run.run looked =
        (.ok count, created) →
      connection.commit.run.run created = (.error failure, after) →
      Ensures connection schema state
        [.tableExists schema.tableName (.ok false),
          .exec schema.createStatement [] (.ok count),
          .commit (.error failure)]
        (.error (.storage failure)) after
  | committed {count : Nat} {looked created after : σ} :
      (connection.tableExists schema.tableName).run.run state =
        (.ok false, looked) →
      (connection.exec schema.createStatement []).run.run looked =
        (.ok count, created) →
      connection.commit.run.run created = (.ok (), after) →
      Ensures connection schema state
        [.tableExists schema.tableName (.ok false),
          .exec schema.createStatement [] (.ok count), .commit (.ok ())]
        (.ok ()) after

theorem exists_ensures (connection : Connection σ) (schema : Schema)
    (state : σ) :
    ∃ exchanges answer after,
      Ensures connection schema state exchanges answer after := by
  rcases looked :
      (connection.tableExists schema.tableName).run.run state with
    ⟨failure | listed, after⟩
  · exact ⟨_, _, _, .unread looked⟩
  · cases listed with
    | true => exact ⟨_, _, _, .listed looked⟩
    | false =>
        rcases executed :
            (connection.exec schema.createStatement []).run.run after with
          ⟨failure | count, created⟩
        · exact ⟨_, _, _, .refused looked executed⟩
        · rcases ended : connection.commit.run.run created with
            ⟨failure | _, last⟩
          · exact ⟨_, _, _, .uncommitted looked executed ended⟩
          · exact ⟨_, _, _, .committed looked executed ended⟩

namespace Connection

theorem hasTable_run {connection : Connection σ} {schema : Schema}
    {state after : σ} {answer : Except String Bool}
    (looked :
      (connection.tableExists schema.tableName).run.run state =
        (answer, after)) :
    (connection.hasTable schema).run.run state =
      (answer.mapError .storage, after) :=
  onStorage_run looked

theorem createTable_run {connection : Connection σ} {schema : Schema}
    {state after : σ} {answer : Except String Nat}
    (executed :
      (connection.exec schema.createStatement []).run.run state =
        (answer, after)) :
    (connection.createTable schema).run.run state =
      ((answer.mapError .storage).map fun _ => (), after) := by
  unfold createTable
  rw [EngineM.run_bind, onStorage_run executed]
  cases answer <;> rfl

end Connection

theorem Ensures.run {connection : Connection σ} {schema : Schema}
    {state after : σ} {exchanges : List Exchange}
    {answer : Except Error Unit}
    (ensures : Ensures connection schema state exchanges answer after) :
    (connection.ensureTable schema).run.run state = (answer, after) := by
  unfold Connection.ensureTable
  cases ensures with
  | unread looked =>
      exact EngineM.run_bind_of_error (Connection.hasTable_run looked) _
  | listed looked =>
      rw [EngineM.run_bind_of_ok (Connection.hasTable_run looked)]
      rfl
  | refused looked executed =>
      rw [EngineM.run_bind_of_ok (Connection.hasTable_run looked)]
      exact EngineM.run_bind_of_error (Connection.createTable_run executed) _
  | uncommitted looked executed ended | committed looked executed ended =>
      rw [EngineM.run_bind_of_ok (Connection.hasTable_run looked)]
      refine (EngineM.run_bind_of_ok
        (Connection.createTable_run executed) _).trans ?_
      exact Connection.onStorage_run ended

/-- A connection that is watched does the same, and keeps the exchanges. -/
theorem Ensures.recorded {connection : Connection σ} {schema : Schema}
    {state after : σ} {exchanges : List Exchange}
    {answer : Except Error Unit}
    (ensures : Ensures connection schema state exchanges answer after) :
    Ensures connection.recorded schema (state, []) exchanges answer
      (after, exchanges) := by
  cases ensures with
  | unread looked => exact .unread (Connection.record_run looked [])
  | listed looked => exact .listed (Connection.record_run looked [])
  | refused looked executed =>
      exact .refused (Connection.record_run looked [])
        (Connection.record_run executed _)
  | uncommitted looked executed ended =>
      exact .uncommitted (Connection.record_run looked [])
        (Connection.record_run executed _) (Connection.record_run ended _)
  | committed looked executed ended =>
      exact .committed (Connection.record_run looked [])
        (Connection.record_run executed _) (Connection.record_run ended _)

/-- The calls that concern the table of a schema. -/
inductive TableCall where
  | has (schema : Schema)
  | ensure (schema : Schema)
  | create (schema : Schema)

namespace TableCall

def schema : TableCall → Schema
  | .has schema => schema
  | .ensure schema => schema
  | .create schema => schema

/-- Performs a call.  The answer is whether the table is there, which it is
when it has been ensured or created. -/
def perform (connection : Connection σ) : TableCall → EngineM σ Error Bool
  | .has schema => connection.hasTable schema
  | .ensure schema => do
      connection.ensureTable schema
      return true
  | .create schema => do
      connection.createTable schema
      return true

/-- What a call asks a connection, and what comes of it. -/
inductive Performs (connection : Connection σ) (state : σ) :
    TableCall → List Exchange → Except Error Bool → σ → Prop where
  | has {schema : Schema} {answer : Except String Bool} {after : σ} :
      (connection.tableExists schema.tableName).run.run state =
        (answer, after) →
      Performs connection state (.has schema)
        [.tableExists schema.tableName answer] (answer.mapError .storage) after
  | ensure {schema : Schema} {exchanges : List Exchange}
      {answer : Except Error Unit} {after : σ} :
      Ensures connection schema state exchanges answer after →
      Performs connection state (.ensure schema) exchanges
        (answer.map fun _ => true) after
  | create {schema : Schema} {answer : Except String Nat} {after : σ} :
      (connection.exec schema.createStatement []).run.run state =
        (answer, after) →
      Performs connection state (.create schema)
        [.exec schema.createStatement [] answer]
        ((answer.mapError .storage).map fun _ => true) after

theorem exists_performs (connection : Connection σ) (call : TableCall)
    (state : σ) :
    ∃ exchanges answer after,
      Performs connection state call exchanges answer after := by
  cases call with
  | has schema => exact ⟨_, _, _, .has rfl⟩
  | ensure schema =>
      obtain ⟨exchanges, answer, after, ensures⟩ :=
        exists_ensures connection schema state
      exact ⟨_, _, _, .ensure ensures⟩
  | create schema => exact ⟨_, _, _, .create rfl⟩

section

variable {connection : Connection σ} {state after : σ} {call : TableCall}
  {exchanges : List Exchange} {answer : Except Error Bool}

theorem Performs.run
    (performs : Performs connection state call exchanges answer after) :
    (call.perform connection).run.run state = (answer, after) := by
  cases performs with
  | has looked => exact Connection.hasTable_run looked
  | @ensure schema _ answer _ ensures =>
      unfold perform
      rw [EngineM.run_bind, ensures.run]
      cases answer <;> rfl
  | @create schema answer _ executed =>
      unfold perform
      rw [EngineM.run_bind, Connection.createTable_run executed]
      cases answer <;> rfl

theorem Performs.recorded
    (performs : Performs connection state call exchanges answer after) :
    Performs connection.recorded (state, []) call exchanges answer
      (after, exchanges) := by
  cases performs with
  | has looked => exact .has (Connection.record_run looked [])
  | ensure ensures => exact .ensure ensures.recorded
  | create executed => exact .create (Connection.record_run executed [])

end

end TableCall

/-- Whether an exchange has created the table of a schema. -/
def Exchange.creates (schema : Schema) : Exchange → Bool
  | .exec sql _ (.ok _) => sql = schema.createStatement
  | _ => false

/-- A call that was made, with its exchanges and its answer. -/
structure TableEvent where
  call : TableCall
  exchanges : List Exchange
  answer : Except Error Bool

/-- Whether a table of a name was created in the course of a call. -/
def TableEvent.creates (name : String) (event : TableEvent) : Bool :=
  event.call.schema.tableName = name &&
    event.exchanges.any (Exchange.creates event.call.schema)

namespace TableCall

/-- Performs a call on a connection that is watched. -/
def watch (connection : Connection σ) (call : TableCall) (state : σ) :
    TableEvent × σ :=
  let (answer, after, exchanges) :=
    (call.perform connection.recorded).run.run (state, [])
  ({ call := call, exchanges := exchanges, answer := answer }, after)

/-- Performs calls one after the other, whatever comes of each. -/
def history (connection : Connection σ) :
    List TableCall → σ → List TableEvent × σ
  | [], state => ([], state)
  | call :: calls, state =>
      let (event, next) := call.watch connection state
      let (events, last) := history connection calls next
      (event :: events, last)

theorem Performs.watch {connection : Connection σ} {state after : σ}
    {call : TableCall} {exchanges : List Exchange}
    {answer : Except Error Bool}
    (performs : Performs connection state call exchanges answer after) :
    call.watch connection state =
      ({ call := call, exchanges := exchanges, answer := answer }, after) := by
  unfold TableCall.watch
  rw [performs.recorded.run]

end TableCall

section

variable {connection : Connection σ} {catalog : σ → Finset String}

/-- In a catalog a table that is listed is found and left alone; one that is not
is created, or its creation fails. -/
theorem Ensures.catalog_cases (keeps : connection.KeepsCatalog catalog)
    {schema : Schema} {state after : σ} {exchanges : List Exchange}
    {answer : Except Error Unit}
    (ensures : Ensures connection schema state exchanges answer after) :
    (schema.tableName ∈ catalog state ∧
        exchanges = [.tableExists schema.tableName (.ok true)] ∧
        answer = .ok () ∧ catalog after = catalog state) ∨
      (schema.tableName ∉ catalog state ∧
        exchanges.any (Exchange.creates schema) = true ∧
        catalog after = catalog state ∪ {schema.tableName}) ∨
      (schema.tableName ∉ catalog state ∧
        exchanges.any (Exchange.creates schema) = false ∧
        answer ≠ .ok () ∧ catalog after = catalog state) := by
  cases ensures with
  | unread looked => cases (keeps.of_tableExists looked).1
  | listed looked =>
      obtain ⟨listed, same⟩ := keeps.mem_of_listed looked
      exact .inl ⟨listed, rfl, rfl, same⟩
  | refused looked executed =>
      obtain ⟨absent, same⟩ := keeps.not_mem_of_unlisted looked
      rcases keeps.of_exec executed with ⟨_, _, kept⟩ | ⟨_, impossible, _⟩
      · exact .inr (.inr ⟨absent, rfl, nofun, kept.trans same⟩)
      · cases impossible
  | uncommitted looked executed ended | committed looked executed ended =>
      obtain ⟨absent, same⟩ := keeps.not_mem_of_unlisted looked
      rcases keeps.of_exec executed with ⟨_, impossible, _⟩ | ⟨_, _, _, grown⟩
      · cases impossible
      · refine .inr (.inl ⟨absent, ?_, ?_⟩)
        · simp [Exchange.creates]
        · rw [keeps.of_commit ended, grown, same]

namespace TableCall

/-- A call adds the name of a table that it creates, which was not listed, and
otherwise changes nothing in the catalog. -/
theorem Performs.catalog_cases (keeps : connection.KeepsCatalog catalog)
    {call : TableCall} {state after : σ} {exchanges : List Exchange}
    {answer : Except Error Bool}
    (performs : Performs connection state call exchanges answer after) :
    (exchanges.any (Exchange.creates call.schema) = true ∧
        call.schema.tableName ∉ catalog state ∧
        catalog after = catalog state ∪ {call.schema.tableName}) ∨
      (exchanges.any (Exchange.creates call.schema) = false ∧
        catalog after = catalog state) := by
  cases performs with
  | has looked => exact .inr ⟨rfl, (keeps.of_tableExists looked).2⟩
  | ensure ensures =>
      rcases ensures.catalog_cases keeps with
        ⟨_, found, _, same⟩ | ⟨absent, created, grown⟩ | ⟨_, failed, _, same⟩
      · rw [found]
        exact .inr ⟨rfl, same⟩
      · exact .inl ⟨created, absent, grown⟩
      · exact .inr ⟨failed, same⟩
  | create executed =>
      rcases keeps.of_exec executed with
        ⟨failure, rfl, same⟩ | ⟨count, rfl, absent, grown⟩
      · exact .inr ⟨rfl, same⟩
      · refine .inl ⟨?_, absent, grown⟩
        simp [Exchange.creates, schema]

theorem Performs.mem_of_ok (keeps : connection.KeepsCatalog catalog)
    {call : TableCall} {state after : σ} {exchanges : List Exchange}
    (performs : Performs connection state call exchanges (.ok true) after) :
    call.schema.tableName ∈ catalog after := by
  generalize isTrue : Except.ok true = answer at performs
  cases performs with
  | has looked =>
      obtain ⟨rfl, same⟩ := keeps.of_tableExists looked
      rw [same]
      exact of_decide_eq_true (Except.ok.inj isTrue).symm
  | @ensure schema _ answer _ ensures =>
      rcases ensures.catalog_cases keeps with
        ⟨listed, _, _, same⟩ | ⟨_, _, grown⟩ | ⟨_, _, failed, _⟩
      · rw [same]
        exact listed
      · rw [grown]
        exact Finset.mem_union_right _ (Finset.mem_singleton_self _)
      · cases answer with
        | ok => exact (failed rfl).elim
        | error => cases isTrue
  | create executed =>
      rcases keeps.of_exec executed with
        ⟨failure, rfl, _⟩ | ⟨count, rfl, _, grown⟩
      · cases isTrue
      · rw [grown]
        exact Finset.mem_union_right _ (Finset.mem_singleton_self _)

/-- Over a whole history a name is created once if it is listed at the end but
not at the beginning, and else not at all. -/
theorem countP_history (keeps : connection.KeepsCatalog catalog)
    (calls : List TableCall) (state : σ) (name : String) :
    (history connection calls state).1.countP (TableEvent.creates name) +
        (if name ∈ catalog state then 1 else 0) =
      if name ∈ catalog (history connection calls state).2 then 1 else 0 := by
  induction calls generalizing state with
  | nil => exact Nat.zero_add _
  | cons call calls induction =>
      obtain ⟨exchanges, answer, next, performs⟩ :=
        exists_performs connection call state
      have rest := induction next
      simp only [history, performs.watch, List.countP_cons,
        TableEvent.creates] at rest ⊢
      rw [← rest]
      -- Only a creation under the name counts, and it is then listed.
      rcases performs.catalog_cases keeps with
        ⟨created, absent, grown⟩ | ⟨created, same⟩
      · by_cases own : call.schema.tableName = name
        · subst own
          simp [created, absent, grown]
        · have others : name ∈ catalog next ↔ name ∈ catalog state := by
            simp [grown, Ne.symm own]
          simp [own, others]
      · simp [created, same]

/-- What is listed stays listed. -/
theorem mem_catalog_history (keeps : connection.KeepsCatalog catalog)
    {calls : List TableCall} {state : σ} {name : String}
    (listed : name ∈ catalog state) :
    name ∈ catalog (history connection calls state).2 := by
  have counted := countP_history keeps calls state name
  rw [if_pos listed] at counted
  by_contra gone
  rw [if_neg gone] at counted
  cases counted

end TableCall

end

theorem Ensures.requests_prefix {connection : Connection σ} {schema : Schema}
    {state after : σ} {exchanges : List Exchange}
    {answer : Except Error Unit}
    (ensures : Ensures connection schema state exchanges answer after) :
    exchanges.map Exchange.request <+:
      [.tableExists schema.tableName, .exec schema.createStatement [],
        .commit] := by
  cases ensures with
  | unread => exact ⟨[.exec schema.createStatement [], .commit], rfl⟩
  | listed => exact ⟨[.exec schema.createStatement [], .commit], rfl⟩
  | refused => exact ⟨[.commit], rfl⟩
  | uncommitted => exact List.prefix_rfl
  | committed => exact List.prefix_rfl

/-- The table of a schema is there, and to ensure it takes no more than to ask
whether it is. -/
structure FindsTable (connection : Connection σ) (catalog : σ → Finset String)
    (schema : Schema) (state : σ) : Prop where
  has : ∃ after, (connection.hasTable schema).run.run state = (.ok true, after)
  ensure : ∃ after,
    (connection.ensureTable schema).run.run state = (.ok (), after) ∧
      (connection.recorded.ensureTable schema).run.run (state, []) =
        (.ok (), after, [.tableExists schema.tableName (.ok true)]) ∧
      catalog after = catalog state

/-- How the tables of a catalog come about.  A history may begin and end
anywhere. -/
structure CreatesOnce (connection : Connection σ)
    (catalog : σ → Finset String) : Prop where
  /-- A table that is ensured is created only where it is not listed. -/
  absent : ∀ (schema : Schema) (state : σ),
    .exec schema.createStatement [] ∈
      ((TableCall.ensure schema).watch connection state).1.exchanges.map
        Exchange.request →
    schema.tableName ∉ catalog state
  /-- No table is created twice under one name. -/
  once : ∀ (calls : List TableCall) (state : σ) (name : String),
    (TableCall.history connection calls state).1.countP
      (TableEvent.creates name) ≤ 1
  /-- Once it is there, the table is found under each schema of its name,
  whatever has been called since. -/
  lasting : ∀ (call : TableCall) (calls : List TableCall) (state : σ)
      (schema : Schema),
    (call.watch connection state).1.answer = .ok true →
    schema.tableName = call.schema.tableName →
    FindsTable connection catalog schema
      (TableCall.history connection calls (call.watch connection state).2).2

section

variable {connection : Connection σ} {catalog : σ → Finset String}

theorem findsTable_of_mem (keeps : connection.KeepsCatalog catalog)
    {schema : Schema} {state : σ} (listed : schema.tableName ∈ catalog state) :
    FindsTable connection catalog schema state := by
  obtain ⟨after, looked, same⟩ := keeps.lists schema.tableName state
  rw [decide_eq_true listed] at looked
  have ensures : Ensures connection schema state _ _ after := .listed looked
  constructor
  case has => exact ⟨after, Connection.hasTable_run looked⟩
  case ensure => exact ⟨after, ensures.run, ensures.recorded.run, same⟩

theorem createsOnce_of_keepsCatalog (keeps : connection.KeepsCatalog catalog) :
    CreatesOnce connection catalog := by
  constructor
  case absent =>
    intro schema state asked listed
    obtain ⟨exchanges, answer, after, ensures⟩ :=
      exists_ensures connection schema state
    rw [(TableCall.Performs.ensure ensures).watch] at asked
    rcases ensures.catalog_cases keeps with
      ⟨_, found, _⟩ | ⟨absent, _⟩ | ⟨absent, _⟩
    · simp [found, Exchange.request] at asked
    · exact absent listed
    · exact absent listed
  case once =>
    intro calls state name
    have counted := TableCall.countP_history keeps calls state name
    have atMost :
        (if name ∈ catalog (TableCall.history connection calls state).2
          then 1 else 0) ≤ 1 := by
      split <;> decide
    omega
  case lasting =>
    intro call calls state schema succeeded sameName
    obtain ⟨exchanges, answer, after, performs⟩ :=
      TableCall.exists_performs connection call state
    rw [performs.watch] at succeeded ⊢
    dsimp only at succeeded
    subst succeeded
    apply findsTable_of_mem keeps
    rw [sameName]
    exact TableCall.mem_catalog_history keeps (performs.mem_of_ok keeps)

end

/-- Ensuring a table asks for a beginning of three things, in whatever way a
connection answers, and the first failure ends it.  Where the connection keeps a
catalog, no history creates a table twice, and a table that is there stays. -/
theorem tables_created_once (connection : Connection σ) :
    (∀ (schema : Schema) (state : σ), ∃ exchanges answer after,
      Ensures connection schema state exchanges answer after ∧
        exchanges.map Exchange.request <+:
          [.tableExists schema.tableName, .exec schema.createStatement [],
            .commit] ∧
        (connection.ensureTable schema).run.run state = (answer, after) ∧
        (connection.recorded.ensureTable schema).run.run (state, []) =
          (answer, after, exchanges)) ∧
      (∀ (call : TableCall) (state : σ),
        (call.perform connection).run.run state =
          ((call.watch connection state).1.answer,
            (call.watch connection state).2)) ∧
      ∀ catalog : σ → Finset String, connection.KeepsCatalog catalog →
        CreatesOnce connection catalog := by
  refine ⟨?_, ?_, ?_⟩
  · intro schema state
    obtain ⟨exchanges, answer, after, ensures⟩ :=
      exists_ensures connection schema state
    exact ⟨exchanges, answer, after, ensures, ensures.requests_prefix,
      ensures.run, ensures.recorded.run⟩
  · intro call state
    obtain ⟨exchanges, answer, after, performs⟩ :=
      TableCall.exists_performs connection call state
    rw [performs.watch]
    exact performs.run
  · intro catalog keeps
    exact createsOnce_of_keepsCatalog keeps

/-- Two schemas of one table in the private store: the table is created for the
first, is not created again for the other, and is found for both. -/
theorem tables_created_once_people :
    let people := (Schema.empty "People").addField (.ofKind "age" .integer)
    let loud := (Schema.empty "PEOPLE").addField (.ofKind "name" .text)
    let calls := [TableCall.create loud, .has people, .ensure loud]
    Store.connection.KeepsCatalog Store.catalog ∧
      .exec people.createStatement [] ∈
        ((TableCall.ensure people).watch Store.connection
          Store.empty).1.exchanges.map Exchange.request ∧
      people.tableName ∉ Store.empty.catalog ∧
      ((TableCall.ensure people).watch Store.connection
        Store.empty).1.answer = .ok true ∧
      loud.tableName = people.tableName ∧
      FindsTable Store.connection Store.catalog loud
        (TableCall.history Store.connection calls
          ((TableCall.ensure people).watch Store.connection
            Store.empty).2).2 := by
  intro people loud calls
  have creation :=
    (tables_created_once Store.connection).2.2 Store.catalog Store.keepsCatalog
  have asked : .exec people.createStatement [] ∈
      ((TableCall.ensure people).watch Store.connection
        Store.empty).1.exchanges.map Exchange.request := by
    decide +kernel
  -- Equality of outcomes is not decidable, but that of their values is.
  have found : ((TableCall.ensure people).watch Store.connection
      Store.empty).1.answer.toOption = some true := by
    decide +kernel
  have succeeded : ((TableCall.ensure people).watch Store.connection
      Store.empty).1.answer = .ok true := by
    revert found
    cases ((TableCall.ensure people).watch Store.connection
      Store.empty).1.answer with
    | ok answer => exact fun found => congrArg _ (Option.some.inj found)
    | error => nofun
  have sameName : loud.tableName = people.tableName := by decide
  refine ⟨Store.keepsCatalog, asked, ?_, succeeded, sameName, ?_⟩
  · exact creation.absent people Store.empty asked
  · exact creation.lasting (.ensure people) calls Store.empty loud succeeded
      sameName

end

end TypedSql
