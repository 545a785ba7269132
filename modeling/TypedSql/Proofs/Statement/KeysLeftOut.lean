import TypedSql.Proofs.Statement.InsertHistory
import TypedSql.Proofs.Value.Unset

/-!
# Keys that are left out

An insert for a record names its fields in order, all but the keys that are left
to the storage engine.  These are the keys without a value: null, the zero of
their kind, and also a real that is merely small.
-/

namespace TypedSql

namespace Insert

/-- Of the fields with their values, those that are named: all but the keys
without a value. -/
inductive Names : List (Field × Value) → List (Field × Value) → Prop where
  | nil : Names [] []
  | leftOut {field : Field} {value : Value}
      {pairs named : List (Field × Value)} :
      field.isKey → value.IsZero ∨ value.IsTiny → Names pairs named →
      Names ((field, value) :: pairs) named
  | bound {field : Field} {value : Value}
      {pairs named : List (Field × Value)} :
      ¬(field.isKey ∧ (value.IsZero ∨ value.IsTiny)) → Names pairs named →
      Names ((field, value) :: pairs) ((field, value) :: named)

theorem isLeftOut_iff {field : Field} {value : Value} :
    isLeftOut field value = true ↔
      field.isKey ∧ (value.IsZero ∨ value.IsTiny) := by
  rw [isLeftOut, Bool.and_eq_true, Value.isUnset_iff]

theorem names_filter (pairs : List (Field × Value)) :
    Names pairs
      (pairs.filter fun (field, value) => !isLeftOut field value) := by
  induction pairs with
  | nil => exact .nil
  | cons pair pairs induction =>
      obtain ⟨field, value⟩ := pair
      rw [List.filter_cons]
      by_cases leftOut : isLeftOut field value = true
      · obtain ⟨isKey, unset⟩ := isLeftOut_iff.mp leftOut
        simpa [leftOut] using Names.leftOut isKey unset induction
      · have named := Names.bound (leftOut ∘ isLeftOut_iff.mpr) induction
        simpa [leftOut] using named

/-- The insert for values names the fields in order, apart from keys that are
null, zero or a small real, and binds each to the stored form of its own
value. -/
theorem names_all_but_unset_keys (schema : Schema) (values : List Value)
    (mode : WriteMode) :
    ∃ named, Names (schema.fields.zip values) named ∧
      ((ofValues schema values).withMode mode).build =
        .ok
          { sql := text mode schema.tableName (named.map (·.1.name))
            parameters := named.map (·.2.toDatum) } := by
  refine ⟨_, names_filter _, ?_⟩
  rw [build_of_noError rfl]
  simp [withMode, ofValues, empty, Function.comp_def]

/-- A key of half the spacing at one is not zero, and yet its record is stored
under whatever key the storage engine chooses. -/
theorem small_key_left_out :
    let reading : Entity := .declare "Reading" (some "at")
      [("at", .required .double), ("note", .required .string)]
    let moment : Binary64 := ⟨0x3ca0000000000000⟩
    let record : reading.Record := .cons moment (.cons "noon" .nil)
    moment.toRat = 1 / 2 ^ 53 ∧ ¬(Value.real moment).IsZero ∧
      (ofRecord reading record).replace.build =
        .ok
          { sql :=
              "REPLACE INTO \"reading\" (\"note\") VALUES (?) RETURNING *"
            parameters := [.text "noon"] } := by
  intro reading moment record
  have nonzero : moment.isZero = false := by decide
  have bound : (ofRecord reading record).replace.bindings =
      [("note", .text "noon")] := by rfl
  have written :
      text .replace (ofRecord reading record).replace.schema.tableName
          ["note"] =
        "REPLACE INTO \"reading\" (\"note\") VALUES (?) RETURNING *" := by
    decide
  refine ⟨by decide +kernel, ne_true_of_eq_false nonzero, ?_⟩
  rw [build_of_noError rfl, bound]
  exact congrArg
    (fun sql => (.ok ⟨sql, [.text "noon"]⟩ : Except Error Query)) written

end Insert

end TypedSql
