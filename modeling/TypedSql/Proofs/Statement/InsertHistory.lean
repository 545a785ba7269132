import Mathlib.Data.List.Basic
import TypedSql.Proofs.Success
import TypedSql.Statement.Insert

/-!
# Histories of inserts

An insert starts out with the values of a record, or with none, and is changed
by calls.  It keeps the error of the first value that was refused, the values
that were accepted, each under the name of its own field, and whether it
replaces.
-/

namespace TypedSql

/-- The calls that may be made on an insert. -/
inductive InsertCall where
  | set (field : String) (value : Value)
  | replace

namespace InsertCall

/-- The binding that a call asks for. -/
def binding? : InsertCall → Option (String × Value)
  | .set field value => some (field, value)
  | .replace => none

def replaces : InsertCall → Bool
  | .set _ _ => false
  | .replace => true

/-- The error of a value that is refused. -/
def fault? (schema : Schema) : InsertCall → Option Error
  | .set field value =>
      match Insert.checkField schema field value with
      | .ok _ => none
      | .error error => some error
  | .replace => none

/-- The binding that a call makes, if its value is accepted. -/
def accepted? (schema : Schema) : InsertCall → Option (String × Value)
  | .set field value =>
      match Insert.checkField schema field value with
      | .ok name => some (name, value)
      | .error _ => none
  | .replace => none

end InsertCall

/-- A column that is found has the name that was asked for, and so has one of
the fields. -/
theorem Schema.of_column_eq_ok {schema : Schema} {field : String}
    {column : Column} (found : schema.column field = .ok column) :
    column.name = field ∧
      ∃ declared ∈ schema.fields, declared.name = field := by
  unfold Schema.column at found
  split at found
  case h_1 declared searched =>
    cases found
    have own : declared.name = field := by
      simpa using List.find?_some searched
    exact ⟨own, declared, List.mem_of_find?_eq_some searched, own⟩
  case h_2 => cases found

namespace Insert

open Identifier (quote)

def call (insert : Insert) : InsertCall → Insert
  | .set field value => insert.set field value
  | .replace => insert.replace

/-- The insert after a chain of calls. -/
def chain (insert : Insert) (calls : List InsertCall) : Insert :=
  calls.foldl call insert

theorem checkField_eq_ok {schema : Schema} {field name : String}
    {value : Value} (checked : checkField schema field value = .ok name) :
    name = field ∧ ∃ declared ∈ schema.fields, declared.name = field := by
  obtain ⟨column, found, same⟩ := bind_eq_ok_iff.mp checked
  obtain ⟨_, -, sameName⟩ := bind_eq_ok_iff.mp same
  rw [← Except.ok.inj sameName]
  exact schema.of_column_eq_ok found

/-- All that a call changes. -/
theorem call_eq (insert : Insert) (call : InsertCall) :
    insert.call call =
      { insert with
        bindings :=
          insert.bindings ++ (call.accepted? insert.schema).toList
        mode := if call.replaces then .replace else insert.mode
        error := insert.error.or (call.fault? insert.schema) } := by
  cases call with
  | replace =>
      simp [Insert.call, replace, withMode, InsertCall.accepted?,
        InsertCall.fault?, InsertCall.replaces]
  | set field value =>
      cases checked : checkField insert.schema field value with
      | ok name =>
          simp [Insert.call, set, InsertCall.accepted?, InsertCall.fault?,
            InsertCall.replaces, checked]
      | error error =>
          simp [Insert.call, set, InsertCall.accepted?, InsertCall.fault?,
            InsertCall.replaces, checked]

theorem chain_eq (insert : Insert) (calls : List InsertCall) :
    insert.chain calls =
      { insert with
        bindings :=
          insert.bindings ++
            calls.filterMap (InsertCall.accepted? insert.schema)
        mode :=
          if calls.any InsertCall.replaces then .replace else insert.mode
        error :=
          insert.error.or
            (calls.findSome? (InsertCall.fault? insert.schema)) } := by
  induction calls generalizing insert with
  | nil => simp [chain]
  | cons next calls induction =>
      have unfolded :
          insert.chain (next :: calls) = (insert.call next).chain calls := rfl
      rw [unfolded, induction, call_eq]
      cases bound : next.accepted? insert.schema <;>
        cases refused : next.fault? insert.schema <;>
        cases replacing : next.replaces <;>
        simp [bound, refused, replacing]

theorem accepted?_eq_binding? {schema : Schema} {call : InsertCall}
    (faultless : call.fault? schema = none) :
    call.accepted? schema = call.binding? := by
  cases call with
  | replace => rfl
  | set field value =>
      cases checked : checkField schema field value with
      | error error => simp [InsertCall.fault?, checked] at faultless
      | ok name =>
          obtain ⟨sameName, -⟩ := checkField_eq_ok checked
          simp [InsertCall.accepted?, InsertCall.binding?, checked, sameName]

/-- A chain without an error consists of calls without one. -/
theorem faultless_of_chain {insert : Insert} {calls : List InsertCall}
    (faultless : (insert.chain calls).error = none) :
    insert.error = none ∧
      ∀ call ∈ calls, call.fault? insert.schema = none := by
  rw [chain_eq] at faultless
  obtain ⟨initial, none⟩ := Option.or_eq_none_iff.mp faultless
  exact ⟨initial, List.findSome?_eq_none_iff.mp none⟩

/-- A chain without an error binds the value of every call under the name that
the call gives. -/
theorem bindings_chain_of_faultless {insert : Insert}
    {calls : List InsertCall} (faultless : (insert.chain calls).error = none) :
    insert.error = none ∧
      (insert.chain calls).bindings =
        insert.bindings ++ calls.filterMap InsertCall.binding? := by
  obtain ⟨initial, eachFaultless⟩ := faultless_of_chain faultless
  constructor
  · exact initial
  · rw [chain_eq]
    apply congrArg (insert.bindings ++ ·)
    apply List.filterMap_congr
    intro call member
    exact accepted?_eq_binding? (eachFaultless call member)

theorem bindings_ofRecord_cons (name : String) (foreignKeys : List ForeignKey)
    {field : EntityField} {fields : List EntityField}
    (element : field.type.Carrier) (record : Record fields) :
    (ofRecord ⟨name, field :: fields, foreignKeys⟩
        (.cons element record)).bindings =
      let value := field.type.toValue element
      let others := (ofRecord ⟨name, fields, foreignKeys⟩ record).bindings
      if field.isKey && value.isUnset then others
      else (field.name, value) :: others := by
  unfold ofRecord ofValues Entity.schema
  dsimp only
  rw [List.map_cons, Record.values, List.zip_cons_cons, List.filter_cons]
  cases leftOut : field.isKey && (field.type.toValue element).isUnset <;>
    simp [isLeftOut, leftOut, Field.ofType]

/-- Only fields of the schema are ever bound. -/
theorem field_of_mem_bindings {schema : Schema} {values : List Value}
    {calls : List InsertCall} {name : String} {value : Value}
    (bound : (name, value) ∈ ((ofValues schema values).chain calls).bindings) :
    ∃ field ∈ schema.fields, field.name = name := by
  rw [chain_eq] at bound
  rcases List.mem_append.mp bound with ofRecord | ofCall
  · obtain ⟨⟨field, own⟩, paired, same⟩ := List.mem_map.mp ofRecord
    obtain ⟨zipped, -⟩ := List.mem_filter.mp paired
    cases same
    exact ⟨field, (List.of_mem_zip zipped).1, rfl⟩
  · obtain ⟨call, -, accepted⟩ := List.mem_filterMap.mp ofCall
    cases call with
    | replace => cases accepted
    | set field own =>
        dsimp only [InsertCall.accepted?] at accepted
        split at accepted
        case h_2 => cases accepted
        case h_1 checkedName checked =>
          cases accepted
          obtain ⟨sameName, declared⟩ := checkField_eq_ok checked
          rw [sameName]
          exact declared

/-- The text of an insert, which names the columns and nothing else. -/
def text (mode : WriteMode) (table : String) (names : List String) : String :=
  if names.isEmpty then
    mode.keyword ++ " INTO \"" ++ table ++ "\" DEFAULT VALUES RETURNING *"
  else
    mode.keyword ++ " INTO " ++ quote table ++ " (" ++
      ", ".intercalate (names.map quote) ++ ") VALUES (" ++
      ", ".intercalate (names.map fun _ => "?") ++ ") RETURNING *"

theorem build_of_noError {insert : Insert} (noError : insert.error = none) :
    insert.build =
      .ok
        { sql :=
            text insert.mode insert.schema.tableName
              (insert.bindings.map (·.1))
          parameters := insert.bindings.map (·.2.toDatum) } := by
  have carried :
      insert.bindings.map
          (fun binding => BoundValue.ofDatum binding.2.toDatum) =
        (insert.bindings.map (·.2.toDatum)).map BoundValue.ofDatum := by
    rw [List.map_map]
    rfl
  unfold build text
  rw [noError, carried, BoundValue.toData_ofDatum]
  cases bindings : insert.bindings with
  | nil => rfl
  | cons binding bindings =>
      simp [Function.comp_def, bind, Except.bind, pure, Except.pure]

theorem noError_of_build {insert : Insert} {query : Query}
    (built : insert.build = .ok query) : insert.error = none := by
  unfold build at built
  cases recorded : insert.error with
  | none => rfl
  | some error =>
      rw [recorded] at built
      cases built

end Insert

end TypedSql
