import Mathlib.Data.List.Forall2
import TypedSql.Proofs.Connection.Run
import TypedSql.Proofs.Record.Materialization
import TypedSql.Proofs.Success

/-!
# Fetched rows

Fetching executes a statement as it is built: one query, and one commit once
the query has succeeded.  The rows are turned into their shape afterwards, so
a row that does not fit is found when all has been committed.  Fetching the
first row differs from fetching all rows in nothing but the rows behind it.
-/

namespace TypedSql

/-- The request that executes a query. -/
def Query.request (query : Query) : Request :=
  .query query.sql query.parameters

/-- The requests that executing a statement makes of a scripted connection, and
the rows or the error that comes of them. -/
inductive Executes (build : Except Error Query) (script : Script) :
    List Request → Except Error (List Row) → Prop where
  | refused {error : Error} :
      build = .error error →
      Executes build script [] (.error error)
  | queryFailed {query : Query} {failure : String} :
      build = .ok query →
      (script.reply 0).failure = some failure →
      Executes build script [query.request] (.error (.storage failure))
  | commitFailed {query : Query} {failure : String} :
      build = .ok query →
      (script.reply 0).failure = none →
      (script.reply 1).failure = some failure →
      Executes build script [query.request, .commit]
        (.error (.storage failure))
  | committed {query : Query} :
      build = .ok query →
      (script.reply 0).failure = none →
      (script.reply 1).failure = none →
      Executes build script [query.request, .commit]
        (.ok (script.reply 0).rows)

/-- What a row becomes.  The data under its columns are values, which stand for
a record of the entity or are no record for the reason given; and a tuple is all
of them. -/
def RowShape.Reads : (shape : RowShape) → Row → Except Error shape.Item → Prop
  | .record entity, row, outcome =>
      entity.Reads (row.fields.map (Value.ofDatum ·.2)) outcome
  | .tuple, row, outcome =>
      outcome = .ok (row.fields.map (Value.ofDatum ·.2))

/-- All rows become items in their order, or the first row that does not fit
decides. -/
inductive Materializes {Item : Type} (reads : Row → Except Error Item → Prop) :
    List Row → Except Error (List Item) → Prop where
  | items {rows : List Row} {items : List Item} :
      List.Forall₂ (fun row value => reads row (.ok value)) rows items →
      Materializes reads rows (.ok items)
  | unfit {before after : List Row} {row : Row} {items : List Item}
      {error : Error} :
      List.Forall₂ (fun row value => reads row (.ok value)) before items →
      reads row (.error error) →
      Materializes reads (before ++ row :: after) (.error error)

/-- The first row decides alone, if there is one. -/
inductive MaterializesFirst {Item : Type}
    (reads : Row → Except Error Item → Prop) :
    List Row → Except Error (Option Item) → Prop where
  | none : MaterializesFirst reads [] (.ok none)
  | item {row : Row} {rows : List Row} {value : Item} :
      reads row (.ok value) →
      MaterializesFirst reads (row :: rows) (.ok (some value))
  | unfit {row : Row} {rows : List Row} {error : Error} :
      reads row (.error error) →
      MaterializesFirst reads (row :: rows) (.error error)

/-- An error stays; rows become what they are made into. -/
inductive Yields {α β : Type} (made : α → Except Error β → Prop) :
    Except Error α → Except Error β → Prop where
  | error (error : Error) : Yields made (.error error) (.error error)
  | made {rows : α} {answer : Except Error β} :
      made rows answer → Yields made (.ok rows) answer

/-- What all rows and the first row become, side by side: both succeed, both
fail alike, or a row behind the first one does not fit. -/
inductive Agrees {Item : Type} (reads : Row → Except Error Item → Prop)
    (rows : List Row) :
    Except Error (List Item) → Except Error (Option Item) → Prop where
  | succeeded (items : List Item) :
      Agrees reads rows (.ok items) (.ok items.head?)
  | failed (error : Error) :
      Agrees reads rows (.error error) (.error error)
  | behind {row unfit : Row} {before after : List Row} {value : Item}
      {error : Error} :
      rows = row :: before ++ unfit :: after →
      reads row (.ok value) →
      (∀ other ∈ before, ∃ value, reads other (.ok value)) →
      reads unfit (.error error) →
      Agrees reads rows (.error error) (.ok (some value))

/-- How fetching all rows and fetching the first one depend on what a statement
is built as and on the replies of a connection. -/
structure FetchLaw {Item : Type} (build : Except Error Query)
    (reads : Row → Except Error Item → Prop)
    (all : EngineM Script Error (List Item))
    (first : EngineM Script Error (Option Item)) : Prop where
  /-- Both execute the statement alike, and then read the rows. -/
  run : ∀ script : Script, ∃ requests outcome,
    Executes build script requests outcome ∧
    (∃ answer, all.run.run script = (answer, script.after requests) ∧
      Yields (Materializes reads) outcome answer) ∧
    (∃ answer, first.run.run script = (answer, script.after requests) ∧
      Yields (MaterializesFirst reads) outcome answer)
  agree : ∀ script : Script,
    Agrees reads (script.reply 0).rows (all.run.run script).1
      (first.run.run script).1

namespace RowShape

variable {shape : RowShape} {row : Row}

theorem reads_iff {outcome : Except Error shape.Item} :
    shape.Reads row outcome ↔ shape.ofRow row.values = outcome := by
  have isValues : row.values = row.fields.map (Value.ofDatum ·.2) := by
    simp [Row.values, Row.data, Function.comp_def]
  rw [isValues]
  cases shape with
  | record entity => exact Entity.ofRow_eq_iff.symm
  | tuple => exact eq_comm

/-- A row becomes one thing only. -/
theorem reads_unique (shape : RowShape) : Relator.RightUnique shape.Reads := by
  intro row outcome other reads readsAlike
  exact (reads_iff.mp reads).symm.trans (reads_iff.mp readsAlike)

theorem materializes_ofRows (shape : RowShape) (rows : List Row) :
    Materializes shape.Reads rows (shape.ofRows (rows.map Row.values)) := by
  induction rows with
  | nil => exact .items .nil
  | cons row rows induction =>
      have unfolded :
          shape.ofRows ((row :: rows).map Row.values) =
            (do
              let value ← shape.ofRow row.values
              let values ← shape.ofRows (rows.map Row.values)
              return value :: values) := by
        simp [ofRows]
      rw [unfolded]
      cases read : shape.ofRow row.values with
      | error error =>
          have noneBefore : List.Forall₂
              (fun row value => shape.Reads row (.ok value)) [] [] := .nil
          exact .unfit noneBefore (reads_iff.mpr read)
      | ok value =>
          have fits := reads_iff.mpr read
          generalize shape.ofRows (rows.map Row.values) = others at induction
          cases induction with
          | items others => exact .items (.cons fits others)
          | unfit others refused => exact .unfit (.cons fits others) refused

theorem materializesFirst_ofFirst (shape : RowShape) (rows : List Row) :
    MaterializesFirst shape.Reads rows
      (shape.ofFirst (rows.map Row.values)) := by
  cases rows with
  | nil => exact .none
  | cons row rows =>
      have unfolded :
          shape.ofFirst ((row :: rows).map Row.values) =
            (shape.ofRow row.values).map some := rfl
      rw [unfolded]
      cases read : shape.ofRow row.values with
      | error error => exact .unfit (reads_iff.mpr read)
      | ok value => exact .item (reads_iff.mpr read)

end RowShape

namespace Connection

variable {σ : Type}

/-- Executes a statement, if it is built, and reads its rows. -/
def fetch {α : Type} (connection : Connection σ) (build : Except Error Query)
    (read : List Row → Except Error α) : EngineM σ Error α := do
  let query ← build
  let rows ← connection.execute query
  read rows

theorem fetchAll_eq_fetch (connection : Connection σ) (shape : RowShape)
    (statement : Statement) :
    connection.fetchAll shape statement =
      connection.fetch statement.render
        (fun rows => shape.ofRows (rows.map Row.values)) :=
  rfl

theorem fetchFirst_eq_fetch (connection : Connection σ) (shape : RowShape)
    (statement : Statement) :
    connection.fetchFirst shape statement =
      connection.fetch statement.render
        (fun rows => shape.ofFirst (rows.map Row.values)) :=
  rfl

theorem fetch_run_of_refused {α : Type} (connection : Connection σ)
    (error : Error) (read : List Row → Except Error α) (state : σ) :
    (connection.fetch (.error error) read).run.run state =
      (.error error, state) :=
  rfl

theorem fetch_run_of_built {α : Type} (connection : Connection σ)
    (query : Query) (read : List Row → Except Error α) (state : σ) :
    (connection.fetch (.ok query) read).run.run state =
      let executed := (connection.execute query).run.run state
      (executed.1.bind read, executed.2) := by
  change (connection.execute query >>= fun rows => _).run.run state = _
  rw [EngineM.run_bind]
  rcases (connection.execute query).run.run state with ⟨_ | rows, after⟩
  · rfl
  · change ((read rows, after) : Except Error α × σ) = _
    rfl

end Connection

namespace Script

theorem execute_run (query : Query) (script : Script) :
    ∃ requests outcome, Executes (.ok query) script requests outcome ∧
      (connection.execute query).run.run script =
        (outcome, script.after requests) := by
  have asked :
      (Connection.onStorage
          (connection.query query.sql query.parameters)).run.run script =
        (((script.reply 0).answer Reply.rows).mapError .storage,
          script.after [query.request]) :=
    Connection.onStorage_run (ask_run _ _ script)
  have committed :
      (Connection.onStorage connection.commit).run.run
          (script.after [query.request]) =
        (((script.reply 1).answer fun _ => ()).mapError .storage,
          script.after [query.request, .commit]) := by
    have answered :=
      Connection.onStorage_run
        (ask_run .commit (fun _ => ()) (script.after [query.request]))
    rw [reply_after, after_after] at answered
    exact answered
  unfold Connection.execute
  rw [EngineM.run_bind, asked]
  cases queried : (script.reply 0).failure with
  | some failure =>
      refine ⟨_, _, .queryFailed rfl queried, ?_⟩
      simp [Reply.answer, queried, Except.mapError]
  | none =>
      simp only [Reply.answer, queried, Except.mapError]
      rw [EngineM.run_bind, committed]
      cases ended : (script.reply 1).failure with
      | some failure =>
          refine ⟨_, _, .commitFailed rfl queried ended, ?_⟩
          simp [Reply.answer, ended, Except.mapError]
      | none =>
          refine ⟨_, _, .committed rfl queried ended, ?_⟩
          simp only [Reply.answer, ended, Except.mapError]
          rfl

theorem fetch_run (build : Except Error Query) (script : Script) :
    ∃ requests outcome, Executes build script requests outcome ∧
      ∀ {α : Type} (read : List Row → Except Error α),
        (connection.fetch build read).run.run script =
          (outcome.bind read, script.after requests) := by
  cases build with
  | error error =>
      refine ⟨[], .error error, .refused rfl, ?_⟩
      intro α read
      rw [Connection.fetch_run_of_refused, after_nil]
      rfl
  | ok query =>
      obtain ⟨requests, outcome, executes, ran⟩ := execute_run query script
      refine ⟨requests, outcome, executes, ?_⟩
      intro α read
      rw [Connection.fetch_run_of_built, ran]

end Script

theorem Executes.rows_eq {build : Except Error Query} {script : Script}
    {requests : List Request} {rows : List Row}
    (executes : Executes build script requests (.ok rows)) :
    rows = (script.reply 0).rows := by
  cases executes
  rfl

theorem yields_bind {α β : Type} {made : α → Except Error β → Prop}
    {read : α → Except Error β} (reads : ∀ rows, made rows (read rows))
    (outcome : Except Error α) : Yields made outcome (outcome.bind read) := by
  cases outcome with
  | error error => exact .error error
  | ok rows => exact .made (reads rows)

section

variable {Item : Type} {reads : Row → Except Error Item → Prop}

theorem Materializes.of_nil {all : Except Error (List Item)}
    (made : Materializes reads [] all) : all = .ok [] := by
  generalize isNil : [] = given at made
  cases made with
  | items fit =>
      subst isNil
      cases fit
      rfl
  | unfit => simp at isNil

/-- The first row does not fit, or it does and those behind it decide. -/
theorem Materializes.of_cons {row : Row} {rows : List Row}
    {all : Except Error (List Item)}
    (made : Materializes reads (row :: rows) all) :
    (∃ error, reads row (.error error) ∧ all = .error error) ∨
      ∃ value rest, reads row (.ok value) ∧ Materializes reads rows rest ∧
        all = rest.map (value :: ·) := by
  generalize isCons : row :: rows = given at made
  cases made with
  | items fit =>
      subst isCons
      cases fit with
      | cons fits others => exact .inr ⟨_, _, fits, .items others, rfl⟩
  | unfit fit refused =>
      cases fit with
      | nil =>
          cases isCons
          exact .inl ⟨_, refused, rfl⟩
      | cons fits others =>
          cases isCons
          exact .inr ⟨_, _, fits, .unfit others refused, rfl⟩

variable (readsUnique : Relator.RightUnique reads)

include readsUnique

theorem Materializes.unique {rows : List Row}
    {all other : Except Error (List Item)} (made : Materializes reads rows all)
    (madeAlike : Materializes reads rows other) : all = other := by
  induction rows generalizing all other with
  | nil => rw [made.of_nil, madeAlike.of_nil]
  | cons row rows induction =>
      rcases made.of_cons with
        ⟨error, refused, rfl⟩ | ⟨value, rest, fits, others, rfl⟩
      · rcases madeAlike.of_cons with
          ⟨_, refusedAlike, rfl⟩ | ⟨_, _, fits, -, -⟩
        · cases readsUnique refused refusedAlike
          rfl
        · cases readsUnique refused fits
      · rcases madeAlike.of_cons with
          ⟨_, refused, -⟩ | ⟨_, _, fitsAlike, othersAlike, rfl⟩
        · cases readsUnique fits refused
        · cases readsUnique fits fitsAlike
          rw [induction others othersAlike]

theorem MaterializesFirst.unique {rows : List Row}
    {first other : Except Error (Option Item)}
    (made : MaterializesFirst reads rows first)
    (madeAlike : MaterializesFirst reads rows other) : first = other := by
  cases made with
  | none =>
      cases madeAlike
      rfl
  | item fits =>
      cases madeAlike with
      | item fitsAlike =>
          cases readsUnique fits fitsAlike
          rfl
      | unfit refused => cases readsUnique fits refused
  | unfit refused =>
      cases madeAlike with
      | item fits => cases readsUnique refused fits
      | unfit refusedAlike =>
          cases readsUnique refused refusedAlike
          rfl

theorem Materializes.agrees {rows : List Row}
    {all : Except Error (List Item)} {first : Except Error (Option Item)}
    (allMade : Materializes reads rows all)
    (firstMade : MaterializesFirst reads rows first) :
    Agrees reads rows all first := by
  cases firstMade with
  | none =>
      rw [allMade.of_nil]
      exact .succeeded []
  | unfit refused =>
      rcases allMade.of_cons with
        ⟨error, refusedAlike, rfl⟩ | ⟨_, _, fits, -, -⟩
      · cases readsUnique refused refusedAlike
        exact .failed _
      · cases readsUnique refused fits
  | item fits =>
      rcases allMade.of_cons with
        ⟨_, refused, -⟩ | ⟨value, rest, fitsAlike, others, rfl⟩
      · cases readsUnique fits refused
      · cases readsUnique fits fitsAlike
        cases others with
        | items => exact .succeeded (_ :: _)
        | @unfit before _ _ _ _ fit refused =>
            have eachFits :
                ∀ other ∈ before, ∃ value, reads other (.ok value) :=
              ((List.forall₂_and_left before _).mp
                (fit.imp fun _ value fits => ⟨⟨value, fits⟩, fits⟩)).1
            exact .behind rfl fits eachFits refused

theorem FetchLaw.of_run {build : Except Error Query}
    {all : EngineM Script Error (List Item)}
    {first : EngineM Script Error (Option Item)}
    (run : ∀ script : Script, ∃ requests outcome,
      Executes build script requests outcome ∧
      (∃ answer, all.run.run script = (answer, script.after requests) ∧
        Yields (Materializes reads) outcome answer) ∧
      (∃ answer, first.run.run script = (answer, script.after requests) ∧
        Yields (MaterializesFirst reads) outcome answer)) :
    FetchLaw build reads all first where
  run := run
  agree := by
    intro script
    obtain ⟨_, _, executes, ⟨_, allRan, allYields⟩, _, firstRan,
      firstYields⟩ := run script
    rw [allRan, firstRan]
    cases allYields with
    | error error =>
        cases firstYields
        exact .failed error
    | made allMade =>
        cases firstYields with
        | made firstMade =>
            rw [← executes.rows_eq]
            exact allMade.agrees readsUnique firstMade

end

/-- Once the statement has been committed, the rows of its query are read. -/
theorem FetchLaw.of_committed {Item : Type} {build : Except Error Query}
    {reads : Row → Except Error Item → Prop}
    {all : EngineM Script Error (List Item)}
    {first : EngineM Script Error (Option Item)}
    (law : FetchLaw build reads all first) {query : Query} (script : Script)
    (built : build = .ok query) (queried : (script.reply 0).failure = none)
    (ended : (script.reply 1).failure = none) :
    let after := script.after [query.request, .commit]
    (∃ answer, all.run.run script = (answer, after) ∧
      Materializes reads (script.reply 0).rows answer) ∧
    ∃ answer, first.run.run script = (answer, after) ∧
      MaterializesFirst reads (script.reply 0).rows answer := by
  obtain ⟨_, _, executes, ⟨_, allRan, allYields⟩, _, firstRan, firstYields⟩ :=
    law.run script
  cases executes with
  | refused failed => cases built.symm.trans failed
  | queryFailed _ failed => cases queried.symm.trans failed
  | commitFailed _ _ failed => cases ended.symm.trans failed
  | committed builtAlike =>
      cases built.symm.trans builtAlike
      cases allYields with
      | made allMade =>
          cases firstYields with
          | made firstMade =>
              exact ⟨⟨_, allRan, allMade⟩, _, firstRan, firstMade⟩

theorem fetchLaw (shape : RowShape) (statement : Statement) :
    FetchLaw statement.render shape.Reads
      (Script.connection.fetchAll shape statement)
      (Script.connection.fetchFirst shape statement) := by
  apply FetchLaw.of_run shape.reads_unique
  intro script
  obtain ⟨requests, outcome, executes, ran⟩ :=
    Script.fetch_run statement.render script
  rw [Connection.fetchAll_eq_fetch, Connection.fetchFirst_eq_fetch]
  exact ⟨requests, outcome, executes,
    ⟨_, ran _, yields_bind shape.materializes_ofRows outcome⟩,
    ⟨_, ran _, yields_bind shape.materializesFirst_ofFirst outcome⟩⟩

/-- Fetching runs exactly the query that is built, and the first row agrees with
all rows, whatever the builder and the replies. -/
theorem fetches_built_query :
    (∀ select : Select,
      FetchLaw select.build select.shape.Reads
        (select.all Script.connection) (select.first Script.connection)) ∧
    (∀ update : Update,
      FetchLaw update.build RowShape.tuple.Reads
        (update.all Script.connection) (update.first Script.connection)) ∧
    (∀ delete : Delete,
      FetchLaw delete.build delete.shape.Reads
        (delete.all Script.connection) (delete.first Script.connection)) := by
  refine ⟨?_, ?_, ?_⟩
  · intro select
    exact fetchLaw select.shape select.statement
  · intro update
    exact fetchLaw .tuple update.statement
  · intro delete
    exact fetchLaw delete.shape delete.statement

/-- The second of two people has no name.  All of them cannot be fetched, the
first one can, and both are fetched as tuples. -/
theorem fetches_built_query_people :
    let people : Entity :=
      { name := "People"
        fields :=
          [{ name := "id", type := .required .int64, isKey := true },
            { name := "name", type := .required .string, isKey := false }]
        foreignKeys := [] }
    let ada : people.Record := .cons (4 : Int64) (.cons "ada" .nil)
    let row (id : Int64) (name : Datum) : Row :=
      { fields := [("id", .integer id), ("name", name)] }
    let raise : Assignment :=
      { table := "people"
        column := "id"
        operation := .add
        operand := .integer 1 }
    let select := Select.ofSelection (.records people)
    let update := (Update.ofAssignments [raise]).chain [.returningAll]
    let script := Script.ofReplies
      [{ Reply.blank with rows := [row 4 (.text "ada"), row 5 .null] }]
    let selected := script.after [.query "SELECT * FROM people" [], .commit]
    let updated := script.after
      [.query "UPDATE people SET id = id + ? RETURNING *" [.integer 1],
        .commit]
    (select.all Script.connection).run.run script =
        (.error (.undecodable people.tableName "name" (.mismatch .text none)),
          selected) ∧
      (select.first Script.connection).run.run script =
        (.ok (some ada), selected) ∧
      (update.all Script.connection).run.run script =
        (.ok [[.integer 4, .text "ada"], [.integer 5, .null]], updated) := by
  intro people ada row raise select update script selected updated
  obtain ⟨selects, updates, -⟩ := fetches_built_query
  have selectBuilt :
      select.build =
        .ok { sql := "SELECT * FROM people", parameters := [] } :=
    eq_ok_of_toOption (by decide)
  have updateBuilt :
      update.build =
        .ok
          { sql := "UPDATE people SET id = id + ? RETURNING *"
            parameters := [.integer 1] } :=
    eq_ok_of_toOption (by decide)
  have adaFits : select.shape.Reads (row 4 (.text "ada")) (.ok ada) :=
    .record rfl (.cons rfl (.cons rfl nofun))
  have namelessUnfit :
      select.shape.Reads (row 5 .null)
        (.error (.undecodable people.tableName "name"
          (.mismatch .text none))) := by
    have first : Record.FirstRefused people.fields [.integer 5, .null]
        ⟨1, by decide⟩ (.mismatch .text none) :=
      Record.firstRefused_succ_iff.mpr
        ⟨⟨5, rfl⟩, Record.firstRefused_zero_iff.mpr rfl⟩
    exact .unfit rfl first
  have allRefused : Materializes select.shape.Reads
      [row 4 (.text "ada"), row 5 .null]
      (.error (.undecodable people.tableName "name" (.mismatch .text none))) :=
    .unfit (.cons adaFits .nil) namelessUnfit
  have tuplesFit : Materializes RowShape.tuple.Reads
      [row 4 (.text "ada"), row 5 .null]
      (.ok [[.integer 4, .text "ada"], [.integer 5, .null]]) :=
    .items (.cons rfl (.cons rfl .nil))
  obtain ⟨⟨all, allRan, allMade⟩, first, firstRan, firstMade⟩ :=
    (selects select).of_committed script selectBuilt rfl rfl
  obtain ⟨⟨tuples, tuplesRan, tuplesMade⟩, -⟩ :=
    (updates update).of_committed script updateBuilt rfl rfl
  have onlyOne := select.shape.reads_unique
  refine ⟨?_, ?_, ?_⟩
  · rw [allRan, allMade.unique onlyOne allRefused]
    rfl
  · rw [firstRan, firstMade.unique onlyOne (.item adaFits)]
    rfl
  · rw [tuplesRan, tuplesMade.unique RowShape.tuple.reads_unique tuplesFit]
    rfl

end TypedSql
