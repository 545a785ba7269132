import Mathlib.Data.List.Forall2
import TypedSql.Proofs.Connection.Batch
import TypedSql.Proofs.Value.Survival

/-!
# Faithful stores

A faithful store answers the statement for a record with one row, which lists
under every column that the statement names the parameter bound to it, and under
any other column a datum that the field can hold.  Records that survive their
own stored form are kept by such a store: the fields bound are as before, and
the keys left out hold what came back at their own position.
-/

namespace TypedSql

/-- The data are, in the order of the fields, what a faithful store returns for
a statement that binds parameters to columns. -/
def Returned (bound : List (String × Datum)) (fields : List EntityField)
    (data : List Datum) : Prop :=
  List.Forall₂
    (fun field datum =>
      match bound.lookup field.name with
      | some parameter => datum = parameter
      | none => ∃ element, field.type.ofValue (.ofDatum datum) = .ok element)
    fields data

theorem mem_names_iff_lookup {parameters : List (String × Datum)}
    {name : String} :
    name ∈ parameters.map (·.1) ↔ (parameters.lookup name).isSome := by
  rw [List.lookup_isSome_iff, List.mem_map]
  constructor
  · rintro ⟨parameter, member, rfl⟩
    exact ⟨parameter, member, beq_self_eq_true _⟩
  · rintro ⟨parameter, member, same⟩
    exact ⟨parameter, member, (eq_of_beq same).symm⟩

namespace Record

def Survives : {fields : List EntityField} → Record fields → Prop
  | _, .nil => True
  | field :: _, .cons element rest =>
      field.type.Survives element ∧ rest.Survives

/-- The columns that the statement for a record names, each with its
parameter: all but the keys without a value. -/
def bound : {fields : List EntityField} → Record fields → List (String × Datum)
  | _, .nil => []
  | field :: _, .cons element rest =>
      let value := field.type.toValue element
      if field.isKey && value.isUnset then rest.bound
      else (field.name, value.toDatum) :: rest.bound

/-- What has become of a record after a row with these data has come back for a
statement that names some of the columns. -/
inductive Kept (names : List String) : {fields : List EntityField} →
    Record fields → List Datum → Record fields → Prop where
  | nil : Kept names .nil [] .nil
  | bound {field : EntityField} {fields : List EntityField}
      {element : field.type.Carrier} {record kept : Record fields}
      {datum : Datum} {data : List Datum} :
      field.name ∈ names → Kept names record data kept →
      Kept names (.cons element record : Record (field :: fields))
        (datum :: data) (.cons element kept)
  | assigned {field : EntityField} {fields : List EntityField}
      {element fresh now : field.type.Carrier} {record kept : Record fields}
      {datum : Datum} {data : List Datum} :
      field.name ∉ names → field.isKey →
      (field.type.toValue element).isUnset →
      field.type.ofValue (.ofDatum datum) = .ok fresh →
      now = fresh ∨ field.type.same now fresh →
      Kept names record data kept →
      Kept names (.cons element record : Record (field :: fields))
        (datum :: data) (.cons now kept)

/-- Every field finds its own stored form among the parameters, or is a key
without a value and finds none. -/
inductive FindsOwn (parameters : List (String × Datum)) :
    {fields : List EntityField} → Record fields → Prop where
  | nil : FindsOwn parameters .nil
  | bound {field : EntityField} {fields : List EntityField}
      {element : field.type.Carrier} {record : Record fields} :
      parameters.lookup field.name =
        some (field.type.toValue element).toDatum →
      FindsOwn parameters record →
      FindsOwn parameters (.cons element record : Record (field :: fields))
  | leftOut {field : EntityField} {fields : List EntityField}
      {element : field.type.Carrier} {record : Record fields} :
      parameters.lookup field.name = none → field.isKey →
      (field.type.toValue element).isUnset →
      FindsOwn parameters record →
      FindsOwn parameters (.cons element record : Record (field :: fields))

/-- A parameter under a name that no field has does not matter. -/
theorem FindsOwn.cons_of_forall_ne {parameters : List (String × Datum)}
    {fields : List EntityField} {record : Record fields} {name : String}
    (datum : Datum) (others : ∀ field ∈ fields, field.name ≠ name)
    (finds : FindsOwn parameters record) :
    FindsOwn ((name, datum) :: parameters) record := by
  have skip : ∀ field : EntityField, field.name ≠ name →
      ((name, datum) :: parameters).lookup field.name =
        parameters.lookup field.name := by
    intro field different
    rw [List.lookup_cons, beq_eq_false_iff_ne.mpr different]
  induction finds with
  | nil => exact .nil
  | @bound field fields element record found _ induction =>
      have own := skip field (others field List.mem_cons_self)
      apply FindsOwn.bound (own.trans found)
      apply induction
      intro other member
      exact others other (List.mem_cons_of_mem _ member)
  | @leftOut field fields element record missing isKey unset _ induction =>
      have own := skip field (others field List.mem_cons_self)
      apply FindsOwn.leftOut (own.trans missing) isKey unset
      apply induction
      intro other member
      exact others other (List.mem_cons_of_mem _ member)

theorem exists_field_of_mem_bound {fields : List EntityField}
    (record : Record fields) {name : String} {datum : Datum}
    (member : (name, datum) ∈ record.bound) :
    ∃ field ∈ fields, field.name = name := by
  induction record with
  | nil => cases member
  | @cons field fields element record induction =>
      unfold bound at member
      dsimp only at member
      split at member
      case isTrue =>
        obtain ⟨other, otherMember, same⟩ := induction member
        exact ⟨other, List.mem_cons_of_mem _ otherMember, same⟩
      case isFalse =>
        rcases List.mem_cons.mp member with own | later
        · cases own
          exact ⟨field, List.mem_cons_self, rfl⟩
        · obtain ⟨other, otherMember, same⟩ := induction later
          exact ⟨other, List.mem_cons_of_mem _ otherMember, same⟩

theorem findsOwn_bound {fields : List EntityField}
    (distinct : (fields.map (·.name)).Nodup) (record : Record fields) :
    FindsOwn record.bound record := by
  induction record with
  | nil => exact .nil
  | @cons field fields element record induction =>
      rw [List.map_cons, List.nodup_cons] at distinct
      obtain ⟨fresh, othersDistinct⟩ := distinct
      have finds := induction othersDistinct
      unfold bound
      dsimp only
      split
      case isTrue leftOut =>
        rw [Bool.and_eq_true] at leftOut
        refine .leftOut ?_ leftOut.1 leftOut.2 finds
        rw [List.lookup_eq_none_iff]
        intro parameter member
        obtain ⟨other, otherMember, same⟩ :=
          exists_field_of_mem_bound record member
        simp only [bne_iff_ne, ne_eq]
        intro equal
        have sameName := same.trans equal.symm
        exact fresh (List.mem_map.mpr ⟨other, otherMember, sameName⟩)
      case isFalse =>
        refine .bound List.lookup_cons_self ?_
        apply finds.cons_of_forall_ne
        intro other otherMember same
        exact fresh (List.mem_map.mpr ⟨other, otherMember, same⟩)

/-- An element that is stored and decoded again is unchanged by the update. -/
theorem update_cons_self {field : EntityField} {fields : List EntityField}
    (element : field.type.Carrier) (record fresh : Record fields) :
    (Record.cons element record : Record (field :: fields)).update
        (.cons element fresh) =
      .cons element (record.update fresh) := by
  simp [update]

/-- Data returned for the parameters that a record finds are decoded, and the
update by them keeps the record. -/
theorem kept_of_returned (table : String)
    {parameters : List (String × Datum)} {fields : List EntityField}
    {record : Record fields} {data : List Datum}
    (finds : FindsOwn parameters record) (survives : record.Survives)
    (returned : Returned parameters fields data) :
    ∃ fresh, decode table fields (data.map Value.ofDatum) = .ok fresh ∧
      Kept (parameters.map (·.1)) record data (record.update fresh) := by
  -- A key that is left out has a datum of its own in the row, so the positions
  -- of record and row stay together.
  induction finds generalizing data with
  | nil =>
      cases returned
      exact ⟨.nil, rfl, .nil⟩
  | @bound field fields element record found _ induction =>
      obtain ⟨elementSurvives, othersSurvive⟩ := survives
      cases returned with
      | @cons _ datum _ data own others =>
          rw [found] at own
          obtain ⟨fresh, decoded, kept⟩ := induction othersSurvive others
          have fits : field.type.ofValue (.ofDatum datum) = .ok element := by
            rw [own]
            exact elementSurvives
          have named : field.name ∈ parameters.map (·.1) := by
            rw [mem_names_iff_lookup, found]
            rfl
          refine ⟨.cons element fresh, by simp [decode, fits, decoded], ?_⟩
          rw [update_cons_self]
          exact .bound named kept
  | @leftOut field fields element record missing isKey unset _ induction =>
      obtain ⟨-, othersSurvive⟩ := survives
      cases returned with
      | @cons _ datum _ data own others =>
          rw [missing] at own
          obtain ⟨element, fits⟩ := own
          obtain ⟨fresh, decoded, kept⟩ := induction othersSurvive others
          have notNamed : field.name ∉ parameters.map (·.1) := by
            rw [mem_names_iff_lookup, missing]
            exact Bool.false_ne_true
          refine ⟨.cons element fresh, by simp [decode, fits, decoded], ?_⟩
          refine .assigned notNamed isKey unset fits ?_ kept
          split
          case isTrue same => exact .inr same
          case isFalse => exact .inl rfl

end Record

namespace Insert

theorem bindings_ofRecord (entity : Entity) (record : entity.Record) :
    (ofRecord entity record).bindings.map
        (fun (name, value) => (name, value.toDatum)) =
      record.bound := by
  obtain ⟨name, fields, foreignKeys⟩ := entity
  change Record fields at record
  induction record with
  | nil => rfl
  | @cons field fields element record induction =>
      rw [bindings_ofRecord_cons, Record.bound]
      dsimp only
      split
      case isTrue => exact induction
      case isFalse => rw [List.map_cons, induction]

/-- The statement for a record names the columns that it binds, and has their
parameters in the same order. -/
theorem storing_eq (entity : Entity) (mode : WriteMode)
    (record : entity.Record) :
    storing entity mode record =
      { sql := text mode entity.tableName (record.bound.map (·.1))
        parameters := record.bound.map (·.2) } := by
  rw [← bindings_ofRecord]
  simp [storing, Function.comp_def]

end Insert

/-- From one state to another, a connection has answered the statements for the
records, each with one row of a faithful store, and then a commit. -/
inductive Connection.Serves {σ : Type} (connection : Connection σ)
    (entity : Entity) (mode : WriteMode) :
    σ → List entity.Record → List Row → σ → Prop where
  | commit {state after : σ} :
      connection.commit.run.run state = (.ok (), after) →
      Serves connection entity mode state [] [] after
  | row {state next after : σ} {record : entity.Record}
      {records : List entity.Record} {row : Row} {rows : List Row} :
      (connection.query
          (Insert.text mode entity.tableName (record.bound.map (·.1)))
          (record.bound.map (·.2))).run.run state = (.ok [row], next) →
      Returned record.bound entity.fields row.data →
      Serves connection entity mode next records rows after →
      Serves connection entity mode state (record :: records) (row :: rows)
        after

namespace Connection

theorem settle_of_returned {entity : Entity} {record : entity.Record}
    {row : Row} (distinct : (entity.fields.map (·.name)).Nodup)
    (survives : record.Survives)
    (returned : Returned record.bound entity.fields row.data) :
    ∃ kept, entity.settle record (.ok [row]) = (kept, .ok ()) ∧
      Record.Kept (record.bound.map (·.1)) record row.data kept := by
  have finds := Record.findsOwn_bound distinct record
  obtain ⟨fresh, decoded, kept⟩ :=
    Record.kept_of_returned entity.tableName finds survives returned
  have width : row.width = entity.fields.length := by
    simpa [Row.data, Row.width] using returned.length_eq.symm
  refine ⟨record.update fresh, ?_, kept⟩
  simp [Entity.settle, Entity.applyRow, Entity.ofRow_of_width width, decoded]

/-- A faithful store keeps every record of a batch, whichever keys are left
out. -/
theorem store_keeps_records {σ : Type} {connection : Connection σ}
    {entity : Entity} {mode : WriteMode} {state after : σ}
    {records : List entity.Record} {rows : List Row}
    (distinct : (entity.fields.map (·.name)).Nodup)
    (survive : ∀ record ∈ records, record.Survives)
    (serves : connection.Serves entity mode state records rows after) :
    ∃ stored,
      (connection.store entity mode records).run state =
          ((stored, .ok ()), after) ∧
        List.Forall₂
          (fun (record, row) kept =>
            Record.Kept (record.bound.map (·.1)) record row.data kept)
          (records.zip rows) stored := by
  rw [store_eq_write]
  -- The answers of the store are as many as the records, and a commit.
  induction serves with
  | commit committed => exact ⟨[], write_run_nil committed, .nil⟩
  | @row state next after record records row rows answered returned _
      induction =>
      rw [List.forall_mem_cons] at survive
      obtain ⟨first, others⟩ := survive
      obtain ⟨kept, settled, keeps⟩ :=
        settle_of_returned distinct first returned
      obtain ⟨stored, ran, othersKept⟩ := induction others
      have query := Insert.storing_eq entity mode record
      have step :
          (connection.writeRecord entity mode record).run state =
            ((kept, .ok ()), next) := by
        rw [← settled]
        apply writeRecord_run
        rw [query]
        exact answered
      refine ⟨kept :: stored, ?_, .cons keeps othersKept⟩
      rw [write_run_of_success records step, ran]

/-- A store that numbers the rows without a key itself: one record gets its key
from there, and the other brings its own. -/
theorem store_keeps_records_people :
    let people : Entity :=
      { name := "People"
        fields :=
          [{ name := "id", type := .required .int64, isKey := true },
            { name := "name", type := .required .string, isKey := false }]
        foreignKeys := [] }
    let person (id : Int64) (name : String) : people.Record :=
      .cons id (.cons name .nil)
    let row (id : Int64) (name : Datum) : Row :=
      { fields := [("id", .integer id), ("name", name)] }
    let numbering : Connection Int64 :=
      { query := fun _ data => do
          let id ← get
          match data with
          | [name] =>
              set (id + 1)
              return [row id name]
          | _ => return [{ fields := data.map (("", ·)) }]
        exec := fun _ _ => return 0
        commit := return ()
        tableExists := fun _ => return true }
    let records := [person 0 "ada", person 9 "bob"]
    let rows := [row 4 (.text "ada"),
      { fields := [("", .integer 9), ("", .text "bob")] }]
    (people.fields.map (·.name)).Nodup ∧
      (∀ record ∈ records, record.Survives) ∧
      numbering.Serves people .insert 4 records rows 5 ∧
      ∃ stored,
        (numbering.store people .insert records).run 4 =
            ((stored, .ok ()), 5) ∧
          List.Forall₂
            (fun (record, row) kept =>
              Record.Kept (record.bound.map (·.1)) record row.data kept)
            (records.zip rows) stored := by
  intro people person row numbering records rows
  have distinct : (people.fields.map (·.name)).Nodup := by decide
  have survives (id : Int64) (name : String) :
      (person id name).Survives := ⟨rfl, rfl, trivial⟩
  have survive : ∀ record ∈ records, record.Survives := by
    intro record member
    simp only [records, List.mem_cons, List.not_mem_nil, or_false] at member
    rcases member with rfl | rfl
    · exact survives 0 "ada"
    · exact survives 9 "bob"
  have keyed : Returned (person 0 "ada").bound people.fields
      (row 4 (.text "ada")).data :=
    .cons ⟨4, rfl⟩ (.cons rfl .nil)
  have whole : Returned (person 9 "bob").bound people.fields
      [.integer 9, .text "bob"] :=
    .cons rfl (.cons rfl .nil)
  have serves : numbering.Serves people .insert 4 records rows 5 :=
    .row rfl keyed (.row rfl whole (.commit rfl))
  exact ⟨distinct, survive, serves,
    store_keeps_records distinct survive serves⟩

end Connection

end TypedSql
