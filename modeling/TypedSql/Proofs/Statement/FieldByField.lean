import Mathlib.Data.List.Nodup
import TypedSql.Proofs.Statement.CheckedOperands

/-!
# Inserts filled field by field

An insert for a record takes the values by position and checks none of them.
Setting them one by one looks every field up by its name and checks its value.
Where no two fields share a name, every value of a record passes, and both
inserts are the same.
-/

namespace TypedSql

/-- Fields of different names are found under their own. -/
theorem Schema.column_of_mem {schema : Schema} {field : Field}
    (distinct : (schema.fields.map (·.name)).Nodup)
    (member : field ∈ schema.fields) :
    schema.column field.name = .ok (field.column schema.tableName) := by
  unfold column
  cases found : schema.fields.find? (·.name = field.name) with
  | none =>
      have absent := List.find?_eq_none.mp found field member
      simp at absent
  | some other =>
      have sameName : other.name = field.name := by
        simpa using List.find?_some found
      have same : other = field :=
        List.inj_on_of_nodup_map distinct (List.mem_of_find?_eq_some found)
          member sameName
      rw [same]

/-- The calls that set the elements of a record one by one, in the order of the
fields, apart from the keys without a value. -/
def Record.settings :
    {fields : List EntityField} → Record fields → List InsertCall
  | _, .nil => []
  | field :: _, .cons element rest =>
      let value := field.type.toValue element
      if field.isKey && value.isUnset then rest.settings
      else .set field.name value :: rest.settings

namespace Insert

theorem checkField_of_mem_zip {entity : Entity}
    (distinct : (entity.fields.map (·.name)).Nodup) (record : entity.Record)
    {field : Field} {value : Value}
    (paired : (field, value) ∈ entity.schema.fields.zip record.values) :
    checkField entity.schema field.name value = .ok field.name := by
  have schemaDistinct : (entity.schema.fields.map (·.name)).Nodup := by
    simpa [Entity.schema, Function.comp_def, Field.ofType] using distinct
  have found := Schema.column_of_mem schemaDistinct (List.of_mem_zip paired).1
  have takes : (field.column entity.schema.tableName).Takes value :=
    Record.takes_of_mem_zip (fun _ => rfl) (fun _ => rfl) paired _
  exact checkField_eq_ok_iff.mpr ⟨_, found, takes, rfl⟩

theorem settings_eq (entity : Entity) (record : entity.Record) :
    record.settings =
      (ofRecord entity record).bindings.map
        fun (name, value) => .set name value := by
  obtain ⟨name, fields, foreignKeys⟩ := entity
  change Record fields at record
  induction record with
  | nil => rfl
  | @cons field fields element record induction =>
      rw [bindings_ofRecord_cons, Record.settings]
      dsimp only
      split
      case isTrue => exact induction
      case isFalse => rw [List.map_cons, induction]

/-- What an insert for a record binds passes the check of its field. -/
theorem checkField_of_mem_bindings {entity : Entity}
    (distinct : (entity.fields.map (·.name)).Nodup) (record : entity.Record)
    {name : String} {value : Value}
    (bound : (name, value) ∈ (ofRecord entity record).bindings) :
    checkField entity.schema name value = .ok name := by
  obtain ⟨⟨field, own⟩, kept, same⟩ := List.mem_map.mp bound
  cases same
  exact checkField_of_mem_zip distinct record (List.mem_of_mem_filter kept)

/-- Setting the elements of a record one by one binds what an insert for the
record binds. -/
theorem filterMap_accepted?_settings {entity : Entity}
    (distinct : (entity.fields.map (·.name)).Nodup)
    (record : entity.Record) :
    record.settings.filterMap (InsertCall.accepted? entity.schema) =
      (ofRecord entity record).bindings := by
  rw [settings_eq, List.filterMap_map]
  apply (List.filterMap_congr _).trans List.filterMap_some
  rintro ⟨name, value⟩ bound
  have checked := checkField_of_mem_bindings distinct record bound
  simp [InsertCall.accepted?, checked]

theorem fault?_of_mem_settings {entity : Entity}
    (distinct : (entity.fields.map (·.name)).Nodup) (record : entity.Record)
    {call : InsertCall} (member : call ∈ record.settings) :
    call.fault? entity.schema = none := by
  rw [settings_eq] at member
  obtain ⟨⟨name, value⟩, bound, rfl⟩ := List.mem_map.mp member
  have checked := checkField_of_mem_bindings distinct record bound
  simp [InsertCall.fault?, checked]

/-- Calls that only ask for replacement bind nothing and cannot fail. -/
theorem chain_filter_replaces (insert : Insert) (calls : List InsertCall) :
    insert.chain (calls.filter InsertCall.replaces) =
      { insert with
        mode :=
          if calls.any InsertCall.replaces then .replace
          else insert.mode } := by
  have replacing :
      ∀ call ∈ calls.filter InsertCall.replaces, call = .replace := by
    intro call member
    cases call with
    | set field value => cases (List.mem_filter.mp member).2
    | replace => rfl
  have unbound :
      (calls.filter InsertCall.replaces).filterMap
          (InsertCall.accepted? insert.schema) = [] := by
    rw [List.filterMap_eq_nil_iff]
    intro call member
    rw [replacing call member]
    rfl
  have faultless :
      (calls.filter InsertCall.replaces).findSome?
          (InsertCall.fault? insert.schema) = none := by
    rw [List.findSome?_eq_none_iff]
    intro call member
    rw [replacing call member]
    rfl
  rw [chain_eq, unbound, faultless, List.any_filter]
  simp

/-- To set the elements of a record one by one, and at any point to ask for
replacement, is to start with the record and to ask for replacement. -/
theorem chain_settings {entity : Entity} {record : entity.Record}
    {calls : List InsertCall}
    (distinct : (entity.fields.map (·.name)).Nodup)
    (settings :
      calls.filter (fun call => !call.replaces) = record.settings) :
    (empty entity.schema).chain calls =
      (ofRecord entity record).chain (calls.filter InsertCall.replaces) := by
  have bound :
      calls.filterMap (InsertCall.accepted? entity.schema) =
        (ofRecord entity record).bindings := by
    rw [← filterMap_accepted?_settings distinct record, ← settings,
      List.filterMap_filter]
    apply List.filterMap_congr
    rintro (_ | _) - <;> rfl
  have faultless :
      calls.findSome? (InsertCall.fault? entity.schema) = none := by
    rw [List.findSome?_eq_none_iff]
    intro call member
    cases call with
    | replace => rfl
    | set field value =>
        apply fault?_of_mem_settings distinct record
        rw [← settings]
        exact List.mem_filter.mpr ⟨member, rfl⟩
  have schema_eq : (empty entity.schema).schema = entity.schema := rfl
  rw [chain_eq, chain_filter_replaces, schema_eq, bound, faultless]
  rfl

/-- Every value of a record passes the check of its own field.  An insert filled
with them field by field is built, and so is the insert for the record: they
are one query, also where both replace. -/
theorem filled_field_by_field (entity : Entity) (record : entity.Record)
    (distinct : (entity.fields.map (·.name)).Nodup) :
    (∀ pair ∈ entity.schema.fields.zip record.values,
      checkField entity.schema pair.1.name pair.2 = .ok pair.1.name) ∧
    ∀ calls : List InsertCall,
      calls.filter (fun call => !call.replaces) = record.settings →
        ∃ query, ((empty entity.schema).chain calls).build = .ok query ∧
          ((ofRecord entity record).chain
            (calls.filter InsertCall.replaces)).build = .ok query := by
  constructor
  · intro pair paired
    exact checkField_of_mem_zip distinct record paired
  · intro calls settings
    rw [chain_settings distinct settings, chain_filter_replaces]
    exact ⟨_, build_of_noError rfl, build_of_noError rfl⟩

/-- The key of the first person is left to the storage engine, and the nickname
is absent. -/
theorem filled_field_by_field_people :
    let people : Entity := .declare "People" (some "id")
      [("id", .required .int64), ("name", .required .string),
        ("nick", .optional .string)]
    let ada : people.Record := .cons (0 : Int64) (.cons "Ada" (.cons none .nil))
    let calls : List InsertCall :=
      [.set "name" (.text "Ada"), .replace, .set "nick" .null]
    (people.fields.map (·.name)).Nodup ∧
    (∀ pair ∈ people.schema.fields.zip ada.values,
      checkField people.schema pair.1.name pair.2 = .ok pair.1.name) ∧
    calls.filter (fun call => !call.replaces) = ada.settings ∧
    ∃ query, ((empty people.schema).chain calls).build = .ok query ∧
      ((ofRecord people ada).chain
        (calls.filter InsertCall.replaces)).build = .ok query := by
  intro people ada calls
  have distinct : (people.fields.map (·.name)).Nodup := by decide
  have settings :
      calls.filter (fun call => !call.replaces) = ada.settings := rfl
  obtain ⟨passes, filled⟩ := filled_field_by_field people ada distinct
  exact ⟨distinct, passes, settings, filled calls settings⟩

end Insert

end TypedSql
