import Mathlib.Data.List.Nodup
import TypedSql.Proofs.Statement.Alignment

/-!
# Fields that are set more than once

An insert keeps every value that it is given for a field, and names the field as
often.  Its fields are therefore named once, and bound to the value that was
given last, only if none is given two values, whether by a record or by calls.
-/

namespace TypedSql

/-- The value that a call gives to a field of the name. -/
def InsertCall.valueFor? (name : String) : InsertCall → Option Value
  | .set field value => if field = name then some value else none
  | .replace => none

namespace Insert

/-- The values that a record gives to fields of a name, apart from the keys left
out. -/
def recorded (schema : Schema) (values : List Value) (name : String) :
    List Value :=
  (schema.fields.zip values).filterMap fun (field, value) =>
    if isLeftOut field value then none
    else if field.name = name then some value
    else none

/-- All values that are given for a name, first by a record and then by
calls. -/
def given (schema : Schema) (values : List Value) (calls : List InsertCall)
    (name : String) : List Value :=
  recorded schema values name ++ calls.filterMap (InsertCall.valueFor? name)

/-- What an insert starts out with: nothing, or values for its fields. -/
inductive Starts (schema : Schema) : Insert → List Value → Prop where
  | empty : Starts schema (Insert.empty schema) []
  | values (values : List Value) :
      Starts schema (ofValues schema values) values

theorem Starts.eq_ofValues {schema : Schema} {insert : Insert}
    {values : List Value} (starts : Starts schema insert values) :
    insert = ofValues schema values := by
  cases starts with
  | empty => exact (ofValues_nil schema).symm
  | values => rfl

/-- The values that stand under a name. -/
def valuesUnder (name : String) (bound : List (String × Value)) : List Value :=
  bound.filterMap fun (other, value) =>
    if other = name then some value else none

/-- Every value stands under the name that it is given for, in order. -/
theorem valuesUnder_pairs (schema : Schema) (values : List Value)
    (calls : List InsertCall) (name : String) :
    valuesUnder name (pairs schema values calls) =
      given schema values calls name := by
  unfold valuesUnder pairs given recorded
  rw [List.filterMap_append, List.filterMap_filterMap,
    List.filterMap_filterMap]
  congr 1
  · apply List.filterMap_congr
    rintro ⟨field, value⟩ -
    dsimp only
    split <;> rfl
  · apply List.filterMap_congr
    intro call member
    cases call <;> rfl

theorem count_name (name : String) (bound : List (String × Value)) :
    (bound.map (·.1)).count name = (valuesUnder name bound).length := by
  induction bound with
  | nil => rfl
  | cons pair bound induction =>
      obtain ⟨other, value⟩ := pair
      rw [List.map_cons, valuesUnder, List.filterMap_cons]
      by_cases own : other = name
      · subst own
        simp only [List.count_cons_self, induction, if_true,
          List.length_cons, valuesUnder]
      · simp only [List.count_cons_of_ne own, induction, own, if_false,
          valuesUnder]

theorem nodup_names_iff {bound : List (String × Value)} :
    (bound.map (·.1)).Nodup ↔
      ∀ name, (valuesUnder name bound).length ≤ 1 := by
  simp only [List.nodup_iff_count_le_one, count_name]

theorem mem_valuesUnder {bound : List (String × Value)}
    {pair : String × Value} (member : pair ∈ bound) :
    pair.2 ∈ valuesUnder pair.1 bound :=
  List.mem_filterMap.mpr ⟨pair, member, if_pos rfl⟩

theorem getLast?_of_length_le_one {items : List Value} {item : Value}
    (member : item ∈ items) (short : items.length ≤ 1) :
    items.getLast? = some item := by
  match items with
  | [] => cases member
  | [only] =>
      rw [List.mem_singleton.mp member]
      rfl
  | _ :: _ :: _ => simp at short

/-- What an insert names is what it is given.  Every field is named once, under
the value that is given last, if and only if no field is given two. -/
theorem named_once_iff {schema : Schema} {insert : Insert}
    {values : List Value} (starts : Starts schema insert values)
    (calls : List InsertCall) (query : Query)
    (built : (insert.chain calls).build = .ok query) :
    let bound := pairs schema values calls
    let mode : WriteMode :=
      if calls.any InsertCall.replaces then .replace else .insert
    query =
        { sql := text mode schema.tableName (bound.map (·.1))
          parameters := bound.map (·.2.toDatum) } ∧
      (∀ name,
        valuesUnder name bound = given schema values calls name) ∧
      ((bound.map (·.1)).Nodup ∧
          (∀ pair ∈ bound,
            (given schema values calls pair.1).getLast? = some pair.2) ↔
        ∀ name, (given schema values calls name).length ≤ 1) := by
  intro bound mode
  cases starts.eq_ofValues
  have noError := noError_of_build built
  rw [build_of_noError noError, bindings_eq_pairs noError, schema_chain]
    at built
  refine ⟨?_, valuesUnder_pairs schema values calls, ?_, ?_⟩
  · have sameMode : ((ofValues schema values).chain calls).mode = mode := by
      rw [chain_eq]
      rfl
    rw [sameMode] at built
    exact (Except.ok.inj built).symm
  · rintro ⟨distinct, -⟩ name
    rw [← valuesUnder_pairs]
    exact nodup_names_iff.mp distinct name
  · intro single
    constructor
    · apply nodup_names_iff.mpr
      intro name
      rw [valuesUnder_pairs]
      exact single name
    · intro pair member
      have own := mem_valuesUnder member
      rw [valuesUnder_pairs] at own
      exact getLast?_of_length_le_one own (single pair.1)

/-- A value for the key that the record leaves out. -/
theorem named_once_people :
    let people : Schema :=
      { name := "People"
        fields :=
          [{ Field.ofKind "id" .integer with isKey := true },
            Field.ofKind "age" .integer]
        foreignKeys := [] }
    let values := [Value.integer 0, .integer 36]
    let calls := [InsertCall.set "id" (.integer 7)]
    let insert := ofValues people values
    let bound := pairs people values calls
    let query : Query :=
      { sql :=
          "INSERT INTO \"people\" (\"age\", \"id\") VALUES (?, ?) RETURNING *"
        parameters := [.integer 36, .integer 7] }
    Starts people insert values ∧
      (insert.chain calls).build = .ok query ∧
      (bound.map (·.1)).Nodup ∧
      ∀ pair ∈ bound,
        (given people values calls pair.1).getLast? = some pair.2 := by
  intro people values calls insert bound query
  have starts : Starts people insert values := .values values
  have built : (insert.chain calls).build = .ok query :=
    eq_ok_of_toOption (by decide)
  obtain ⟨-, under, once⟩ := named_once_iff starts calls query built
  refine ⟨starts, built, once.mpr ?_⟩
  intro name
  rw [← under]
  apply nodup_names_iff.mp
  decide

/-- A field that is set twice, and a field of a record that is set again. -/
theorem named_twice_people :
    let people : Schema :=
      { name := "People"
        fields :=
          [{ Field.ofKind "id" .integer with isKey := true },
            Field.ofKind "age" .integer]
        foreignKeys := [] }
    let older := InsertCall.set "age" (.integer 37)
    let twice := (empty people).chain [.set "age" (.integer 36), older]
    let again := (ofValues people [.integer 7, .integer 36]).chain [older]
    twice.build =
        .ok
          { sql :=
              "INSERT INTO \"people\" (\"age\", \"age\") VALUES (?, ?) " ++
                "RETURNING *"
            parameters := [.integer 36, .integer 37] } ∧
      again.build =
        .ok
          { sql :=
              "INSERT INTO \"people\" (\"id\", \"age\", \"age\") " ++
                "VALUES (?, ?, ?) RETURNING *"
            parameters := [.integer 7, .integer 36, .integer 37] } ∧
      ∀ insert ∈ [twice, again], ¬(insert.bindings.map (·.1)).Nodup := by
  intro people older twice again
  refine ⟨eq_ok_of_toOption ?_, eq_ok_of_toOption ?_, ?_⟩
  · decide
  · decide
  · decide

end Insert

end TypedSql
