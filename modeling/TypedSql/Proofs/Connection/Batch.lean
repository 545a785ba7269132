import TypedSql.Proofs.Connection.Run
import TypedSql.Proofs.Record.Update
import TypedSql.Proofs.Statement.InsertHistory

/-!
# Batches

A batch of records is stored one by one, and committed at the end.  The step of
a record fails when its query fails, when no row comes back, when the first row
has the wrong width, and when a value of that row is not of its field's host
type.  The first step that fails ends the batch: nothing is committed, and the
record at fault and those behind it keep what they had.
-/

namespace TypedSql

/-- The query that stores a record: the columns of the fields that are not left
out, and their values in the same order. -/
def Insert.storing (entity : Entity) (mode : WriteMode)
    (record : entity.Record) : Query :=
  let bindings := (ofRecord entity record).bindings
  { sql := text mode entity.tableName (bindings.map (·.1))
    parameters := bindings.map (·.2.toDatum) }

theorem Insert.build_ofRecord (entity : Entity) (mode : WriteMode)
    (record : entity.Record) :
    ((ofRecord entity record).withMode mode).build =
      .ok (storing entity mode record) :=
  build_of_noError rfl

namespace Record

/-- From the left, the first field that the datum at its position does not
fit. -/
inductive FirstUnfit :
    List EntityField → List Datum → EntityField → DecodeError → Prop where
  | here {field : EntityField} {fields : List EntityField} {datum : Datum}
      {data : List Datum} {cause : DecodeError} :
      field.type.ofValue (.ofDatum datum) = .error cause →
      FirstUnfit (field :: fields) (datum :: data) field cause
  | there {field other : EntityField} {fields : List EntityField}
      {datum : Datum} {data : List Datum} {cause : DecodeError}
      {element : field.type.Carrier} :
      field.type.ofValue (.ofDatum datum) = .ok element →
      FirstUnfit fields data other cause →
      FirstUnfit (field :: fields) (datum :: data) other cause

theorem decode_of_firstUnfit {table : String} {fields : List EntityField}
    {data : List Datum} {field : EntityField} {cause : DecodeError}
    (unfit : FirstUnfit fields data field cause) :
    decode table fields (data.map Value.ofDatum) =
      .error (.undecodable table field.name cause) := by
  induction unfit with
  | here refused => simp [decode, refused]
  | there fits _ induction => simp [decode, fits, induction]

theorem FirstRefused.firstUnfit {fields : List EntityField}
    {data : List Datum} {position : Fin fields.length} {cause : DecodeError}
    (first : FirstRefused fields (data.map Value.ofDatum) position cause) :
    FirstUnfit fields data (fields.get position) cause := by
  induction fields generalizing data with
  | nil => exact position.elim0
  | cons field fields induction =>
      cases data with
      | nil => cases first.refused
      | cons datum data =>
          cases position using Fin.cases with
          | zero => exact .here (firstRefused_zero_iff.mp first)
          | succ position =>
              obtain ⟨⟨element, fits⟩, others⟩ := firstRefused_succ_iff.mp first
              exact .there fits (induction others)

/-- Data of the right number either have a first one that does not fit, or stand
for a record. -/
theorem firstUnfit_or_standsFor {fields : List EntityField}
    {data : List Datum} (width : data.length = fields.length) :
    (∃ field cause, FirstUnfit fields data field cause) ∨
      ∃ fresh : Record fields, StandsFor (data.map Value.ofDatum) fresh := by
  have values : (data.map Value.ofDatum).length = fields.length := by
    rw [List.length_map, width]
  rcases firstRefused_or_standsFor values with ⟨_, cause, first⟩ | stands
  · exact .inl ⟨_, cause, first.firstUnfit⟩
  · exact .inr stands

end Record

theorem Row.length_values (row : Row) : row.values.length = row.width := by
  simp [values, data, width]

namespace Entity

theorem ofRow_of_width_ne {entity : Entity} {row : Row}
    (width : row.width ≠ entity.fields.length) :
    entity.ofRow row.values =
      .error
        (.rowArity entity.tableName entity.fields.length row.width) := by
  rw [← row.length_values] at width ⊢
  exact ofRow_of_length_ne width

theorem ofRow_of_width {entity : Entity} {row : Row}
    (width : row.width = entity.fields.length) :
    entity.ofRow row.values =
      Record.decode entity.tableName entity.fields
        (row.data.map Value.ofDatum) := by
  rw [← row.length_values] at width
  exact ofRow_of_length width

/-- What becomes of a record when its query is answered. -/
def settle (entity : Entity) (record : entity.Record) :
    Except String (List Row) → entity.Record × Except Error Unit
  | .error failure => (record, .error (.storage failure))
  | .ok [] =>
      (record, .error (.rowArity entity.tableName entity.fields.length 0))
  | .ok (row :: _) => entity.applyRow record row.values

end Entity

namespace Connection

variable {σ : Type}

/-- Inserts or replaces records. -/
def store (connection : Connection σ) (entity : Entity) (mode : WriteMode)
    (records : List entity.Record) :
    StateM σ (List entity.Record × Except Error Unit) :=
  match mode with
  | .insert => connection.insert entity records
  | .replace => connection.replace entity records

theorem store_eq_write (connection : Connection σ) (entity : Entity)
    (mode : WriteMode) (records : List entity.Record) :
    connection.store entity mode records =
      connection.write entity mode records := by
  cases mode <;> rfl

theorem storedRow_run {connection : Connection σ} {entity : Entity}
    {mode : WriteMode} {record : entity.Record} {state after : σ}
    {answer : Except String (List Row)}
    (answered :
      (connection.query (Insert.storing entity mode record).sql
        (Insert.storing entity mode record).parameters).run.run state =
          (answer, after)) :
    (connection.storedRow entity mode record).run.run state =
      (match answer with
        | .error failure => .error (.storage failure)
        | .ok [] =>
            .error (.rowArity entity.tableName entity.fields.length 0)
        | .ok (row :: _) => .ok row.values,
        after) := by
  unfold storedRow
  rw [Insert.build_ofRecord]
  change (onStorage (connection.query _ _) >>= _).run.run state = _
  rw [EngineM.run_bind, onStorage_run answered]
  rcases answer with failure | _ | ⟨row, rows⟩ <;> rfl

theorem writeRecord_run {connection : Connection σ} {entity : Entity}
    {mode : WriteMode} {record : entity.Record} {state after : σ}
    {answer : Except String (List Row)}
    (answered :
      (connection.query (Insert.storing entity mode record).sql
        (Insert.storing entity mode record).parameters).run.run state =
          (answer, after)) :
    (connection.writeRecord entity mode record).run state =
      (entity.settle record answer, after) := by
  unfold writeRecord
  rw [StateM.run_bind_of (storedRow_run answered)]
  rcases answer with failure | _ | ⟨row, rows⟩ <;> rfl

theorem write_run_nil {connection : Connection σ} {entity : Entity}
    {mode : WriteMode} {state after : σ} {answer : Except String Unit}
    (answered : connection.commit.run.run state = (answer, after)) :
    (connection.write entity mode []).run state =
      (([], answer.mapError .storage), after) := by
  unfold write
  rw [StateM.run_bind_of (onStorage_run answered)]
  rfl

/-- A step that fails ends the batch. -/
theorem write_run_of_failure {connection : Connection σ} {entity : Entity}
    {mode : WriteMode} {record kept : entity.Record}
    {records : List entity.Record} {state after : σ} {error : Error}
    (failed : (connection.writeRecord entity mode record).run state =
      ((kept, .error error), after)) :
    (connection.write entity mode (record :: records)).run state =
      ((kept :: records, .error error), after) := by
  rw [write, StateM.run_bind_of failed]
  rfl

theorem write_run_of_success {connection : Connection σ} {entity : Entity}
    {mode : WriteMode} {record kept : entity.Record} {state after : σ}
    (records : List entity.Record)
    (succeeded : (connection.writeRecord entity mode record).run state =
      ((kept, .ok ()), after)) :
    let rest := (connection.write entity mode records).run after
    (connection.write entity mode (record :: records)).run state =
      ((kept :: rest.1.1, rest.1.2), rest.2) := by
  rw [write, StateM.run_bind_of succeeded]
  rfl

end Connection

/-- The request that stores a record. -/
def Request.storing (entity : Entity) (mode : WriteMode)
    (record : entity.Record) : Request :=
  .query (Insert.storing entity mode record).sql
    (Insert.storing entity mode record).parameters

namespace Reply

/-- The errors with which a reply to its query makes the step of a record
fail. -/
inductive Fails (entity : Entity) (reply : Reply) : Error → Prop where
  | refused {failure : String} :
      reply.failure = some failure →
      Fails entity reply (.storage failure)
  | noRow :
      reply.failure = none → reply.rows = [] →
      Fails entity reply (.rowArity entity.tableName entity.fields.length 0)
  | width {row : Row} {rows : List Row} :
      reply.failure = none → reply.rows = row :: rows →
      row.width ≠ entity.fields.length →
      Fails entity reply
        (.rowArity entity.tableName entity.fields.length row.width)
  | undecodable {row : Row} {rows : List Row} {field : EntityField}
      {cause : DecodeError} :
      reply.failure = none → reply.rows = row :: rows →
      row.width = entity.fields.length →
      Record.FirstUnfit entity.fields row.data field cause →
      Fails entity reply (.undecodable entity.tableName field.name cause)

/-- The data of the first row of the reply stand for a record, and this has been
taken over, field by field. -/
def Settles (entity : Entity) (record : entity.Record) (reply : Reply)
    (after : entity.Record) : Prop :=
  reply.failure = none ∧
    ∃ (row : Row) (rows : List Row) (fresh : entity.Record),
      reply.rows = row :: rows ∧ row.width = entity.fields.length ∧
        Record.StandsFor (row.data.map Value.ofDatum) fresh ∧
        Record.TakesOver record fresh after

theorem answer_of_failure {α : Type} {reply : Reply} {failure : String}
    (failed : reply.failure = some failure) (read : Reply → α) :
    reply.answer read = .error failure := by
  simp [answer, failed]

theorem answer_of_noFailure {α : Type} {reply : Reply}
    (succeeded : reply.failure = none) (read : Reply → α) :
    reply.answer read = .ok (read reply) := by
  simp [answer, succeeded]

theorem settle_of_fails {entity : Entity} {reply : Reply} {error : Error}
    (fails : reply.Fails entity error) (record : entity.Record) :
    entity.settle record (reply.answer Reply.rows) =
      (record, .error error) := by
  cases fails with
  | refused failed =>
      rw [answer_of_failure failed]
      rfl
  | noRow succeeded none =>
      rw [answer_of_noFailure succeeded, none]
      rfl
  | width succeeded some width =>
      rw [answer_of_noFailure succeeded, some]
      simp [Entity.settle, Entity.applyRow, Entity.ofRow_of_width_ne width]
  | undecodable succeeded some width unfit =>
      rw [answer_of_noFailure succeeded, some]
      simp [Entity.settle, Entity.applyRow, Entity.ofRow_of_width width,
        Record.decode_of_firstUnfit unfit]

theorem settle_of_settles {entity : Entity} {reply : Reply}
    {record after : entity.Record}
    (settles : reply.Settles entity record after) :
    entity.settle record (reply.answer Reply.rows) = (after, .ok ()) := by
  obtain ⟨succeeded, row, rows, fresh, some, width, stands, taken⟩ := settles
  have read : entity.ofRow row.values = .ok fresh := by
    rw [Entity.ofRow_of_width width, Record.decode_of_standsFor _ stands]
  rw [answer_of_noFailure succeeded, some, taken.eq_update]
  exact Entity.applyRow_of_ok read

theorem Settles.unique {entity : Entity} {reply : Reply}
    {record after other : entity.Record}
    (settles : reply.Settles entity record after)
    (settlesAlike : reply.Settles entity record other) : after = other := by
  have same := settle_of_settles settles
  rw [settle_of_settles settlesAlike] at same
  exact (congrArg Prod.fst same).symm

theorem not_fails_of_settles {entity : Entity} {reply : Reply}
    {record after : entity.Record}
    (settles : reply.Settles entity record after) :
    ¬∃ error, reply.Fails entity error := by
  rintro ⟨error, fails⟩
  have failed := settle_of_fails fails record
  rw [settle_of_settles settles] at failed
  cases failed

theorem settles_of_not_fails {entity : Entity} {reply : Reply}
    (passes : ¬∃ error, reply.Fails entity error) (record : entity.Record) :
    ∃ after, reply.Settles entity record after := by
  cases failed : reply.failure with
  | some failure => exact (passes ⟨_, .refused failed⟩).elim
  | none =>
      cases answered : reply.rows with
      | nil => exact (passes ⟨_, .noRow failed answered⟩).elim
      | cons row rows =>
          by_cases width : row.width = entity.fields.length
          · have sameLength : row.data.length = entity.fields.length := by
              simpa [Row.data, Row.width] using width
            rcases Record.firstUnfit_or_standsFor sameLength with
              ⟨field, cause, unfit⟩ | ⟨fresh, stands⟩
            · exact (passes ⟨_, .undecodable failed answered width unfit⟩).elim
            · exact ⟨record.update fresh, failed, row, rows, fresh, answered,
                width, stands, Record.takesOver_update record fresh⟩
          · exact (passes ⟨_, .width failed answered width⟩).elim

end Reply

/-- The records at the front of a batch after the rows that came back for them
have been applied, each to its own record. -/
structure Settled (entity : Entity) (script : Script)
    (records front : List entity.Record) : Prop where
  length_le : front.length ≤ records.length
  settles : ∀ {index : Nat} {record after : entity.Record},
    records[index]? = some record → front[index]? = some after →
      (script.reply index).Settles entity record after

namespace Script

theorem reply_succ (script : Script) (request : Request) (index : Nat) :
    (script.after [request]).reply index = script.reply (index + 1) := by
  rw [reply_after, List.length_singleton, Nat.add_comm]

theorem settled_nil (entity : Entity) (script : Script)
    (records : List entity.Record) : Settled entity script records [] where
  length_le := Nat.zero_le _
  settles := fun _ impossible => nomatch impossible

theorem settled_cons {entity : Entity} {script : Script}
    {records front : List entity.Record} {record kept : entity.Record}
    {request : Request}
    (first : (script.reply 0).Settles entity record kept)
    (others : Settled entity (script.after [request]) records front) :
    Settled entity script (record :: records) (kept :: front) where
  length_le := Nat.succ_le_succ others.length_le
  settles := by
    intro index found after member place
    cases index with
    | zero =>
        cases member
        cases place
        exact first
    | succ index =>
        rw [← reply_succ script request]
        exact others.settles member place

theorem writeRecord_run (entity : Entity) (mode : WriteMode)
    (record : entity.Record) (script : Script) :
    (connection.writeRecord entity mode record).run script =
      (entity.settle record ((script.reply 0).answer Reply.rows),
        script.after [Request.storing entity mode record]) :=
  Connection.writeRecord_run (ask_run _ _ script)

/-- As long as no step fails, the batch goes on with the records that are
left. -/
theorem write_run_of_passes {entity : Entity} (mode : WriteMode)
    {records : List entity.Record} {script : Script} {count : Nat}
    (within : count ≤ records.length)
    (passes : ∀ index < count,
      ¬∃ error, (script.reply index).Fails entity error) :
    ∃ front, front.length = count ∧ Settled entity script records front ∧
      let rest :=
        (connection.write entity mode (records.drop count)).run
          (script.after
            ((records.take count).map (Request.storing entity mode)))
      (connection.write entity mode records).run script =
        ((front ++ rest.1.1, rest.1.2), rest.2) := by
  -- Every step that passes takes one record and one reply, so what is left of
  -- the batch runs on a script whose replies are numbered anew.
  induction count generalizing records script with
  | zero =>
      refine ⟨[], rfl, settled_nil entity script records, ?_⟩
      rw [List.take_zero, List.map_nil, after_nil]
      rfl
  | succ count induction =>
      cases records with
      | nil => exact (Nat.not_succ_le_zero count within).elim
      | cons record records =>
          let request := Request.storing entity mode record
          have step := writeRecord_run entity mode record script
          obtain ⟨kept, settles⟩ :=
            Reply.settles_of_not_fails (passes 0 (Nat.succ_pos count)) record
          rw [Reply.settle_of_settles settles] at step
          have othersPass : ∀ index < count,
              ¬∃ error,
                ((script.after [request]).reply index).Fails entity error := by
            intro index less
            rw [reply_succ]
            exact passes (index + 1) (Nat.succ_lt_succ less)
          obtain ⟨front, length, settled, ran⟩ :=
            induction (Nat.le_of_succ_le_succ within) othersPass
          refine ⟨kept :: front, congrArg Nat.succ length,
            settled_cons settles settled, ?_⟩
          have continued := Connection.write_run_of_success records step
          rw [ran, after_after] at continued
          exact continued

theorem write_run_of_fails {entity : Entity} (mode : WriteMode)
    {record : entity.Record} (records : List entity.Record) {script : Script}
    {error : Error} (fails : (script.reply 0).Fails entity error) :
    (connection.write entity mode (record :: records)).run script =
      ((record :: records, .error error),
        script.after [Request.storing entity mode record]) := by
  have step := writeRecord_run entity mode record script
  rw [Reply.settle_of_fails fails] at step
  exact Connection.write_run_of_failure step

theorem write_run_nil (entity : Entity) (mode : WriteMode)
    (script : Script) :
    (connection.write entity mode []).run script =
      (([], ((script.reply 0).answer fun _ => ()).mapError .storage),
        script.after [.commit]) :=
  Connection.write_run_nil (ask_run _ _ script)

end Script

namespace Connection

/-- The first step of a batch that fails, if any does, decides what the batch
asks for, what it yields and what becomes of each of its records. -/
theorem store_stops_at_first_failure (entity : Entity) (mode : WriteMode)
    (records : List entity.Record) (script : Script) :
    let fails := fun index error => (script.reply index).Fails entity error
    let requests := records.map (Request.storing entity mode)
    let run := (Script.connection.store entity mode records).run script
    (∀ record : entity.Record,
      ((Insert.ofRecord entity record).withMode mode).build =
        .ok (Insert.storing entity mode record)) ∧
    (∀ index error, index < records.length → fails index error →
      (∀ earlier < index, ¬∃ error, fails earlier error) →
        ∃ front, front.length = index ∧ Settled entity script records front ∧
          run =
            ((front ++ records.drop index, .error error),
              script.after (requests.take (index + 1)))) ∧
    ((∀ index < records.length, ¬∃ error, fails index error) →
        ∃ stored result, stored.length = records.length ∧
          Settled entity script records stored ∧
          run = ((stored, result), script.after (requests ++ [.commit])) ∧
          match (script.reply records.length).failure with
          | none => result = .ok ()
          | some failure => result = .error (.storage failure)) := by
  intro fails requests run
  have written :
      run = (Script.connection.write entity mode records).run script :=
    congrArg (fun action => action.run script)
      (store_eq_write Script.connection entity mode records)
  refine ⟨Insert.build_ofRecord entity mode, ?_, ?_⟩
  · intro index error within failed passes
    obtain ⟨front, length, settled, ran⟩ :=
      Script.write_run_of_passes mode (Nat.le_of_lt within) passes
    refine ⟨front, length, settled, ?_⟩
    have failedThere :
        ((script.after ((records.take index).map
          (Request.storing entity mode))).reply 0).Fails entity error := by
      rw [Script.reply_after, List.length_map, List.length_take,
        Nat.min_eq_left (Nat.le_of_lt within)]
      exact failed
    have last : requests.take (index + 1) =
        (records.take index).map (Request.storing entity mode) ++
          [Request.storing entity mode records[index]] := by
      rw [← List.map_take, List.take_add_one, List.getElem?_eq_getElem within,
        Option.toList_some, List.map_append]
      rfl
    rw [written, ran, List.drop_eq_getElem_cons within,
      Script.write_run_of_fails mode _ failedThere, Script.after_after, last]
  · intro passes
    obtain ⟨stored, length, settled, ran⟩ :=
      Script.write_run_of_passes mode (Nat.le_refl _) passes
    rw [List.take_length, List.drop_length, Script.write_run_nil,
      Script.reply_after, List.length_map, Script.after_after] at ran
    have committed :
        run =
          ((stored, ((script.reply records.length).answer fun _ =>
              ()).mapError .storage),
            script.after (requests ++ [.commit])) := by
      rw [written, ran, List.append_nil]
      rfl
    refine ⟨stored, _, length, settled, committed, ?_⟩
    split
    case h_1 succeeded =>
      rw [Reply.answer_of_noFailure succeeded]
      rfl
    case h_2 failure failed =>
      rw [Reply.answer_of_failure failed]
      rfl

/-- A batch of two that ends at its second row, which is too short, and a batch
that reaches a commit, which fails.  Records that have been settled bear the
keys that came back. -/
theorem store_stops_at_first_failure_people :
    let people : Entity :=
      { name := "People"
        fields :=
          [{ name := "id", type := .required .int64, isKey := true },
            { name := "name", type := .required .string, isKey := false }]
        foreignKeys := [] }
    let person (id : Int64) (name : String) : people.Record :=
      .cons id (.cons name .nil)
    let returned (data : List Datum) : Reply :=
      { Reply.blank with rows := [{ fields := data.map (("", ·)) }] }
    let whole (id : Int64) (name : String) : Reply :=
      returned [.integer id, .text name]
    let lost : Reply := { Reply.blank with failure := some "disk I/O error" }
    let records := [person 0 "ada", person 0 "bob"]
    let requests := records.map (Request.storing people .insert)
    let short := Script.ofReplies [whole 4 "ada", returned [.integer 5]]
    let uncommitted := Script.ofReplies [whole 4 "ada", whole 5 "bob", lost]
    (Script.connection.store people .insert records).run short =
        (([person 4 "ada", person 0 "bob"],
            .error (.rowArity people.tableName 2 1)),
          short.after (requests.take 2)) ∧
      (Script.connection.store people .insert records).run uncommitted =
        (([person 4 "ada", person 5 "bob"],
            .error (.storage "disk I/O error")),
          uncommitted.after (requests ++ [.commit])) := by
  intro people person returned whole lost records requests short uncommitted
  have settles (id : Int64) (name : String) :
      (whole id name).Settles people (person 0 name) (person id name) := by
    have stands : Record.StandsFor [.integer id, .text name]
        (person id name) := .cons rfl (.cons rfl nofun)
    have realFree : (person 0 name).RealFree := by
      intro position
      match position with
      | ⟨0, _⟩ => trivial
      | ⟨1, _⟩ => trivial
    have taken := Record.takesOver_update (person 0 name) (person id name)
    rw [Record.update_of_realFree (.inl realFree)] at taken
    exact ⟨rfl, _, _, _, rfl, rfl, stands, taken⟩
  have adaPasses := Reply.not_fails_of_settles (settles 4 "ada")
  have bobPasses := Reply.not_fails_of_settles (settles 5 "bob")
  constructor
  · have tooShort :
        (short.reply 1).Fails people (.rowArity people.tableName 2 1) := by
      have answered :
          (short.reply 1).rows = [{ fields := [("", .integer 5)] }] := rfl
      apply Reply.Fails.width rfl answered
      decide
    obtain ⟨front, length, settled, ran⟩ :=
      (store_stops_at_first_failure people .insert records short).2.1 1 _
        (by decide) tooShort (by
          intro earlier less
          rw [Nat.lt_one_iff.mp less]
          exact adaPasses)
    obtain ⟨first, rfl⟩ := List.length_eq_one_iff.mp length
    have ada : (short.reply 0).Settles people (person 0 "ada") first :=
      settled.settles rfl rfl
    rw [ada.unique (settles 4 "ada")] at ran
    exact ran
  · obtain ⟨stored, result, length, settled, ran, failed⟩ :=
      (store_stops_at_first_failure people .insert records uncommitted).2.2 (by
        intro index less
        match index, less with
        | 0, _ => exact adaPasses
        | 1, _ => exact bobPasses)
    obtain ⟨first, second, rfl⟩ := List.length_eq_two.mp length
    have ada : (uncommitted.reply 0).Settles people (person 0 "ada") first :=
      settled.settles rfl rfl
    have bob : (uncommitted.reply 1).Settles people (person 0 "bob") second :=
      settled.settles rfl rfl
    rw [ada.unique (settles 4 "ada"), bob.unique (settles 5 "bob")] at ran
    exact failed ▸ ran

end Connection

end TypedSql
