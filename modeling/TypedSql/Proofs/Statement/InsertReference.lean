import TypedSql.Proofs.Expression.OperandChecks
import TypedSql.Proofs.Statement.QuotedNames

/-!
# Inserts by reference

What an insert is built into is settled by the calls made on it: by the first
value that its field does not take, or else by the values in their order and by
whether replacement is asked for at all.  The reference says so without any
insert that is changed along the way, and without the classes in which values
are carried to their placeholders.
-/

namespace TypedSql

theorem Value.isNull_iff {value : Value} :
    value.isNull = true ↔ value = .null := by
  cases value <;> simp [isNull]

/-- Why a value cannot be set, if it cannot: no field has the name, or the first
that has it is of another kind and not open to a null. -/
def Schema.refusal? (schema : Schema) (field : String) (value : Value) :
    Option Error :=
  match schema.fields.find? (·.name = field) with
  | none => some (.unknownField schema.tableName field)
  | some declared =>
      if value.kind? = some declared.kind ∨
          value.isNull ∧ declared.nullable then none
      else
        some (.typeMismatch schema.tableName field declared.kind value.kind?)

def InsertCall.refusal? (schema : Schema) : InsertCall → Option Error
  | .set field value => schema.refusal? field value
  | .replace => none

theorem InsertCall.refusal?_ne_storage (call : InsertCall) (schema : Schema)
    (failure : String) : call.refusal? schema ≠ some (.storage failure) := by
  cases call with
  | replace => exact nofun
  | set field value =>
      unfold refusal? Schema.refusal?
      dsimp only
      cases schema.fields.find? (·.name = field) with
      | none => exact nofun
      | some declared =>
          dsimp only
          split <;> exact nofun

namespace Identifier

/-- A character of a name as it stands between double quotes. -/
def quoted (character : Char) : List Char :=
  if character = '"' then ['"', '"'] else [character]

def betweenQuotes (name : String) : String :=
  "\"" ++ String.ofList (name.toList.flatMap quoted) ++ "\""

theorem doubleQuotes_eq_flatMap (characters : List Char) :
    doubleQuotes characters = characters.flatMap quoted := by
  induction characters with
  | nil => rfl
  | cons character characters induction =>
      rw [doubleQuotes, List.flatMap_cons, induction, quoted]
      split <;> rfl

theorem quote_eq_betweenQuotes (name : String) :
    quote name = betweenQuotes name := by
  apply String.toList_inj.mp
  simp [quote, betweenQuotes, doubleQuotes_eq_flatMap]

theorem betweenQuotes_of_not_mem {name : String}
    (plain : '"' ∉ name.toList) :
    betweenQuotes name = "\"" ++ name ++ "\"" := by
  rw [← quote_eq_betweenQuotes]
  apply String.toList_inj.mp
  simp [quote, doubleQuotes_of_not_mem plain]

end Identifier

namespace Insert

open Identifier (betweenQuotes)

/-- The columns of an insert with their placeholders, or their absence. -/
def referenceRow (names : List String) : String :=
  match names with
  | [] => "DEFAULT VALUES"
  | names =>
      "(" ++ ", ".intercalate (names.map betweenQuotes) ++ ") VALUES (" ++
        ", ".intercalate (names.map fun _ => "?") ++ ")"

/-- What is built for values that are inserted and for the calls that follow:
the first refusal, or one text for all values and one placeholder for each. -/
def reference (schema : Schema) (values : List Value)
    (calls : List InsertCall) : Except Error Query :=
  let verb := if calls.any InsertCall.replaces then "REPLACE" else "INSERT"
  let bound := pairs schema values calls
  match calls.findSome? (InsertCall.refusal? schema) with
  | some error => .error error
  | none =>
      .ok
        { sql :=
            verb ++ " INTO \"" ++ schema.tableName ++ "\" " ++
              referenceRow (bound.map (·.1)) ++ " RETURNING *"
          parameters := bound.map (·.2.toDatum) }

theorem text_eq_reference {mode : WriteMode} {table : String}
    (plain : '"' ∉ table.toList) (names : List String) :
    text mode table names =
      mode.keyword ++ " INTO \"" ++ table ++ "\" " ++ referenceRow names ++
        " RETURNING *" := by
  have quoted : Identifier.quote = betweenQuotes :=
    funext Identifier.quote_eq_betweenQuotes
  unfold text
  rw [quoted, Identifier.betweenQuotes_of_not_mem plain]
  apply String.toList_inj.mp
  cases names with
  | nil => simp [referenceRow]
  | cons name names => simp [referenceRow]

/-- A field takes the values of its kind, and null if it is nullable. -/
theorem compare_column (table : String) (field : Field) (value : Value) :
    (field.column table).compare .eq value =
      if value.kind? = some field.kind ∨ value.isNull ∧ field.nullable then
        .ok (.compare table field.name .eq value)
      else .error (.typeMismatch table field.name field.kind value.kind?) := by
  have taken : (field.column table).accepts value = true ↔
      value.kind? = some field.kind ∨ value.isNull ∧ field.nullable := by
    rw [Value.isNull_iff]
    exact Column.accepts_iff
  have plain : (field.column table).requirePlain = .ok () := rfl
  unfold Column.compare Column.checkOperand
  simp only [plain, taken]
  split <;> rfl

theorem checkField_eq (schema : Schema) (field : String) (value : Value) :
    checkField schema field value =
      match schema.refusal? field value with
      | some error => .error error
      | none => .ok field := by
  unfold checkField Schema.refusal? Schema.column
  cases found : schema.fields.find? (·.name = field) with
  | none => rfl
  | some declared =>
      have own : declared.name = field := by
        simpa using List.find?_some found
      have compared := compare_column schema.tableName declared value
      have named : (declared.column schema.tableName).name = field := own
      dsimp only [bind, Except.bind]
      rw [compared, named, own]
      by_cases takes : value.kind? = some declared.kind ∨
          value.isNull ∧ declared.nullable
      · rw [if_pos takes, if_pos takes]
        rfl
      · rw [if_neg takes, if_neg takes]

theorem fault?_eq_refusal? (schema : Schema) (call : InsertCall) :
    call.fault? schema = call.refusal? schema := by
  cases call with
  | replace => rfl
  | set field value =>
      rw [InsertCall.fault?, checkField_eq, InsertCall.refusal?]
      cases schema.refusal? field value <;> rfl

theorem reference_ne_storage (schema : Schema) (values : List Value)
    (calls : List InsertCall) (failure : String) :
    reference schema values calls ≠ .error (.storage failure) := by
  unfold reference
  cases refused : calls.findSome? (InsertCall.refusal? schema) with
  | none => exact nofun
  | some error =>
      intro isStorage
      obtain ⟨call, -, own⟩ := List.exists_of_findSome?_eq_some refused
      rw [Except.error.inj isStorage] at own
      exact call.refusal?_ne_storage schema failure own

theorem error_chain (schema : Schema) (values : List Value)
    (calls : List InsertCall) :
    ((ofValues schema values).chain calls).error =
      calls.findSome? (InsertCall.refusal? schema) := by
  have sameFaults :
      InsertCall.fault? schema = InsertCall.refusal? schema :=
    funext (fault?_eq_refusal? schema)
  rw [chain_eq, ← sameFaults]
  rfl

/-- An insert is built as the reference has it. -/
theorem build_chain_eq_reference {schema : Schema}
    (plain : '"' ∉ schema.tableName.toList) (values : List Value)
    (calls : List InsertCall) :
    ((ofValues schema values).chain calls).build =
      reference schema values calls := by
  have recorded := error_chain schema values calls
  unfold reference
  cases refused : calls.findSome? (InsertCall.refusal? schema) with
  | some error =>
      rw [refused] at recorded
      rw [build, recorded]
  | none =>
      rw [refused] at recorded
      rw [build_of_noError recorded, bindings_eq_pairs recorded, schema_chain,
        text_eq_reference plain, keyword_chain]

/-- Whatever is set on an insert, and whether it starts out empty or with the
values of a record, what is built is the first refusal or else the reference
text with all values bound in order.  It is never an error of the storage
engine, since all data arrive that are carried to placeholders. -/
theorem built_as_by_reference (schema : Schema)
    (plain : '"' ∉ schema.tableName.toList) (calls : List InsertCall) :
    ((empty schema).chain calls).build = reference schema [] calls ∧
    (∀ values,
      ((ofValues schema values).chain calls).build =
        reference schema values calls) ∧
    (∀ values failure,
      ((ofValues schema values).chain calls).build ≠
        .error (.storage failure)) ∧
    ∀ data, BoundValue.toData (data.map BoundValue.ofDatum) = .ok data := by
  refine ⟨?_, ?_, ?_, ?_⟩
  · rw [← ofValues_nil]
    exact build_chain_eq_reference plain [] calls
  · intro values
    exact build_chain_eq_reference plain values calls
  · intro values failure
    rw [build_chain_eq_reference plain values calls]
    exact reference_ne_storage schema values calls failure
  · exact BoundValue.toData_ofDatum

/-- A record whose key is left out and whose quoted field is absent, and after
it a value for the key that is no integer. -/
theorem built_as_by_reference_people :
    let people : Schema :=
      { name := "People"
        fields :=
          [{ Field.ofKind "id" .integer with isKey := true },
            { Field.ofKind "so \"called\"" .text with nullable := true }]
        foreignKeys := [] }
    let ada := ofValues people [.integer 0, .null]
    '"' ∉ people.tableName.toList ∧
    (ada.chain [.replace, .set "id" (.integer 7)]).build =
      .ok
        { sql :=
            "REPLACE INTO \"people\" (\"so \"\"called\"\"\", \"id\") " ++
              "VALUES (?, ?) RETURNING *"
          parameters := [.null, .integer 7] } ∧
    (ada.chain [.set "id" (.text "7"), .set "age" .null, .replace]).build =
      .error (.typeMismatch "people" "id" .integer (some .text)) := by
  intro people ada
  have plain : '"' ∉ people.tableName.toList := by decide
  have built calls := (built_as_by_reference people plain calls).2.1
  refine ⟨plain, ?_, ?_⟩
  · rw [built]
    exact eq_ok_of_toOption (by decide)
  · have table : people.tableName = "people" := by decide
    rw [built, ← table]
    rfl

end Insert

end TypedSql
