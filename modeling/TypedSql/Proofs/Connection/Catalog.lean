import Mathlib.Data.Finset.Lattice.Lemmas
import TypedSql.Connection.Store
import TypedSql.Proofs.Connection.Run
import TypedSql.Proofs.Schema.DefinitionRoundTrip

/-!
# Catalogs

A connection keeps a catalog if the tables that it lists are those that were
created, and no table is created twice under one name.  It may refuse to create
a table for reasons of its own.  The private store keeps one.
-/

namespace TypedSql

/-- The connection lists the names in the catalog of its state.  Creating the
table of a schema adds its name, or fails and changes nothing; it fails if the
name is there.  Neither a look into the catalog nor a commit changes it. -/
structure Connection.KeepsCatalog {σ : Type} (connection : Connection σ)
    (catalog : σ → Finset String) : Prop where
  lists : ∀ name state, ∃ after,
    (connection.tableExists name).run.run state =
        (.ok (decide (name ∈ catalog state)), after) ∧
      catalog after = catalog state
  refuses : ∀ (schema : Schema) state, schema.tableName ∈ catalog state →
    ∃ failure after,
      (connection.exec schema.createStatement []).run.run state =
          (.error failure, after) ∧
        catalog after = catalog state
  creates : ∀ (schema : Schema) state, schema.tableName ∉ catalog state →
    (∃ failure after,
      (connection.exec schema.createStatement []).run.run state =
          (.error failure, after) ∧
        catalog after = catalog state) ∨
      ∃ count after,
        (connection.exec schema.createStatement []).run.run state =
            (.ok count, after) ∧
          catalog after = catalog state ∪ {schema.tableName}
  commits : ∀ state,
    catalog (connection.commit.run.run state).2 = catalog state

namespace Connection.KeepsCatalog

variable {σ : Type} {connection : Connection σ} {catalog : σ → Finset String}

theorem of_tableExists (keeps : connection.KeepsCatalog catalog)
    {name : String} {state after : σ} {answer : Except String Bool}
    (looked :
      (connection.tableExists name).run.run state = (answer, after)) :
    answer = .ok (decide (name ∈ catalog state)) ∧
      catalog after = catalog state := by
  obtain ⟨last, found, same⟩ := keeps.lists name state
  rw [looked] at found
  cases found
  exact ⟨rfl, same⟩

theorem mem_of_listed (keeps : connection.KeepsCatalog catalog)
    {name : String} {state after : σ}
    (looked :
      (connection.tableExists name).run.run state = (.ok true, after)) :
    name ∈ catalog state ∧ catalog after = catalog state := by
  obtain ⟨answer, same⟩ := keeps.of_tableExists looked
  exact ⟨of_decide_eq_true (Except.ok.inj answer).symm, same⟩

theorem not_mem_of_unlisted (keeps : connection.KeepsCatalog catalog)
    {name : String} {state after : σ}
    (looked :
      (connection.tableExists name).run.run state = (.ok false, after)) :
    name ∉ catalog state ∧ catalog after = catalog state := by
  obtain ⟨answer, same⟩ := keeps.of_tableExists looked
  exact ⟨of_decide_eq_false (Except.ok.inj answer).symm, same⟩

theorem of_exec (keeps : connection.KeepsCatalog catalog) {schema : Schema}
    {state after : σ} {answer : Except String Nat}
    (executed :
      (connection.exec schema.createStatement []).run.run state =
        (answer, after)) :
    (∃ failure, answer = .error failure ∧ catalog after = catalog state) ∨
      ∃ count, answer = .ok count ∧ schema.tableName ∉ catalog state ∧
        catalog after = catalog state ∪ {schema.tableName} := by
  by_cases listed : schema.tableName ∈ catalog state
  · obtain ⟨failure, last, refused, same⟩ := keeps.refuses schema state listed
    rw [executed] at refused
    cases refused
    exact .inl ⟨failure, rfl, same⟩
  · rcases keeps.creates schema state listed with
      ⟨failure, last, refused, same⟩ | ⟨count, last, created, grown⟩
    · rw [executed] at refused
      cases refused
      exact .inl ⟨failure, rfl, same⟩
    · rw [executed] at created
      cases created
      exact .inr ⟨count, rfl, listed, grown⟩

theorem of_commit (keeps : connection.KeepsCatalog catalog) {state after : σ}
    {answer : Except String Unit}
    (ended : connection.commit.run.run state = (answer, after)) :
    catalog after = catalog state := by
  have same := keeps.commits state
  rw [ended] at same
  exact same

end Connection.KeepsCatalog

namespace Store

def catalog (store : Store) : Finset String :=
  (store.tables.map (·.definition.name)).toFinset

theorem listsTable_eq (store : Store) (name : String) :
    store.listsTable name = decide (name ∈ store.catalog) := by
  rw [Bool.eq_iff_iff]
  simp [listsTable, catalog]

theorem exists_text_eq (definition : TableDefinition) :
    ∃ rest : List Char,
      definition.text.toList =
        "CREATE TABLE ".toList ++
          ((Identifier.quote definition.name).toList ++ ' ' :: rest) := by
  rw [definition.toList_text]
  exact ⟨_, rfl⟩

/-- The text of a definition, wherever it is cut off, is read under its name or
not at all. -/
theorem name_of_read?_text {definition found : TableDefinition}
    (read :
      TableDefinition.read? (effectiveText definition.text) = some found) :
    found.name = definition.name := by
  obtain ⟨rest, layout⟩ := exists_text_eq definition
  have plain : '\x00' ≠ '"' := by decide
  have ends : (' ' :: rest).head? ≠ some '"' := by simp
  have keyword : ∀ character ∈ "CREATE TABLE ".toList,
      decide (character ≠ '\x00') = true := List.all_eq_true.mp (by decide)
  have cut : (effectiveText definition.text).toList =
      "CREATE TABLE ".toList ++
        ((Identifier.quote definition.name).toList ++
          ' ' :: rest).takeWhile (· ≠ '\x00') := by
    rw [effectiveText, String.toList_ofList, layout]
    exact List.takeWhile_append_of_pos keyword
  unfold TableDefinition.read? skipPiece? at read
  rw [cut, skipText?_append] at read
  simp only [Option.bind_eq_bind, Option.bind_eq_some_iff,
    Option.bind_some] at read
  obtain ⟨⟨name, text⟩, named, text, -, parts⟩ := read
  have sameName := Identifier.eq_of_read?_takeWhile plain ends named
  split at parts
  case isTrue =>
    cases parts
    exact sameName
  case isFalse =>
    obtain ⟨⟨part, text⟩, -, others⟩ := Option.bind_eq_some_iff.mp parts
    rw [TableDefinition.name_of_readParts? others,
      TableDefinition.name_addPart]
    exact sameName

theorem createTable_eq (store : Store) (table : TableDefinition) :
    (∃ fault, store.createTable table = .error fault) ∨
      store.find? table.name = none ∧
        ∃ added : StoredTable, added.definition = table ∧
          store.createTable table =
            .ok { store with tables := store.tables ++ [added] } := by
  unfold createTable
  cases found : store.find? table.name with
  | some stored => exact .inl ⟨_, rfl⟩
  | none =>
      by_cases sound : isSound table
      · refine .inr ⟨rfl, { definition := table, integers := [] }, rfl, ?_⟩
        simp [sound]
      · refine .inl ⟨.malformedTable table.name, ?_⟩
        simp [sound]

theorem not_mem_catalog_of_find? {store : Store} {name : String}
    (absent : store.find? name = none) : name ∉ store.catalog := by
  unfold find? at absent
  rw [List.find?_eq_none] at absent
  intro listed
  simp only [catalog, List.mem_toFinset, List.mem_map] at listed
  obtain ⟨table, member, rfl⟩ := listed
  exact absent table member (by simp [sameName])

/-- A create statement fails, or adds the name that it is about, which was not
in the catalog. -/
theorem execute_createStatement (store : Store) (schema : Schema) :
    (∃ fault, store.execute schema.createStatement = .error fault) ∨
      schema.tableName ∉ store.catalog ∧
        ∃ after, store.execute schema.createStatement = .ok after ∧
          after.catalog = store.catalog ∪ {schema.tableName} := by
  have notBegin : schema.createStatement ≠ "BEGIN" := by
    intro same
    obtain ⟨rest, layout⟩ := exists_text_eq schema.definition
    have begins : schema.createStatement.toList.head? = some 'C' := by
      rw [Schema.createStatement, layout, List.head?_append]
      rfl
    rw [same] at begins
    exact absurd begins (by decide)
  unfold execute
  rw [if_neg notBegin]
  cases read :
      TableDefinition.read? (effectiveText schema.createStatement) with
  | none => exact .inl ⟨_, rfl⟩
  | some table =>
      have sameName : table.name = schema.tableName :=
        name_of_read?_text read
      rcases createTable_eq store table with
        failed | ⟨absent, added, same, created⟩
      · exact .inl failed
      · refine .inr ⟨?_, _, created, ?_⟩
        · rw [← sameName]
          exact not_mem_catalog_of_find? absent
        · ext name
          simp [catalog, same, sameName]

theorem exec_run (store : Store) (sql : String) :
    (connection.exec sql []).run.run store =
      match store.execute sql with
      | .ok after => (.ok 0, after)
      | .error fault => (.error fault.message, store) := by
  let finish (changed : Store) : EngineM Store String Nat := do
    set changed
    return 0
  have unfolded :
      (connection.exec sql []).run.run store =
        (((store.execute sql).mapError Fault.message :
            EngineM Store String Store) >>= finish).run.run store := rfl
  rw [unfolded, EngineM.run_bind]
  cases store.execute sql <;> rfl

theorem keepsCatalog : connection.KeepsCatalog catalog where
  lists := by
    intro name store
    refine ⟨store, ?_, rfl⟩
    rw [← listsTable_eq]
    rfl
  refuses := by
    intro schema store listed
    rcases execute_createStatement store schema with
      ⟨fault, failed⟩ | ⟨absent, -⟩
    · refine ⟨fault.message, store, ?_, rfl⟩
      rw [exec_run, failed]
    · exact (absent listed).elim
  creates := by
    intro schema store _
    rcases execute_createStatement store schema with
      ⟨fault, failed⟩ | ⟨-, after, executed, grown⟩
    · refine .inl ⟨fault.message, store, ?_, rfl⟩
      rw [exec_run, failed]
    · refine .inr ⟨0, after, ?_, grown⟩
      rw [exec_run, executed]
  commits := by
    intro store
    rfl

end Store

end TypedSql
