import TypedSql.Record

/-!
# Records from rows

A row is a record position by position: it has a value for each field, and the
host type of the field at a position decides what the value there stands for.  A
row of another length is refused before any value is looked at, so that no field
ever finds its value missing; otherwise the first value that does not fit its
field decides.  The values of a record are the row of this record.
-/

namespace TypedSql

namespace Record

/-- The element at a position. -/
def get : {fields : List EntityField} → Record fields →
    (position : Fin fields.length) → (fields.get position).type.Carrier
  | _, .cons element _, ⟨0, _⟩ => element
  | _, .cons _ rest, ⟨position + 1, within⟩ =>
      rest.get ⟨position, Nat.lt_of_succ_lt_succ within⟩

theorem eq_of_get_eq {fields : List EntityField} {left right : Record fields}
    (same : ∀ position, left.get position = right.get position) :
    left = right := by
  induction left with
  | nil =>
      cases right
      rfl
  | @cons field fields element rest induction =>
      cases right with
      | cons other others =>
          have heads : element = other := same ⟨0, Nat.zero_lt_succ _⟩
          have tails : rest = others := by
            apply induction
            intro position
            exact same position.succ
          rw [heads, tails]

/-- What the host type of the field at a position makes of the value there, if
the row has one. -/
def decodedAt? (fields : List EntityField) (row : List Value)
    (position : Fin fields.length) :
    Option (Except DecodeError (fields.get position).type.Carrier) :=
  row[position.val]?.map (fields.get position).type.ofValue

/-- Decodes values as `decode` does, but leaves it open what becomes of a field
whose value is missing. -/
def decodeOr
    (missing : (field : EntityField) → Except Error field.type.Carrier)
    (table : String) :
    (fields : List EntityField) → List Value → Except Error (Record fields)
  | [], _ => .ok .nil
  | field :: fields, [] => do
      let element ← missing field
      let rest ← decodeOr missing table fields []
      return .cons element rest
  | field :: fields, value :: values => do
      let element ←
        (field.type.ofValue value).mapError (.undecodable table field.name)
      let rest ← decodeOr missing table fields values
      return .cons element rest

/-- A missing value counts as null. -/
theorem decode_eq_decodeOr (table : String) (fields : List EntityField)
    (values : List Value) :
    decode table fields values =
      decodeOr
        (fun field =>
          (field.type.ofValue .null).mapError (.undecodable table field.name))
        table fields values := by
  induction fields generalizing values with
  | nil => rfl
  | cons field fields induction =>
      cases values with
      | nil =>
          rw [decode, decodeOr, List.headD_nil, List.tail_nil, induction]
          cases field.type.ofValue .null with
          | error cause => rfl
          | ok element => cases decodeOr _ table fields [] <;> rfl
      | cons value values =>
          rw [decode, decodeOr, List.headD_cons, List.tail_cons, induction]
          cases field.type.ofValue value with
          | error cause => rfl
          | ok element => cases decodeOr _ table fields values <;> rfl

/-- Where there are as many values as fields, none is missing. -/
theorem decodeOr_eq_decode
    (missing : (field : EntityField) → Except Error field.type.Carrier)
    (table : String) {fields : List EntityField} {row : List Value}
    (width : row.length = fields.length) :
    decodeOr missing table fields row = decode table fields row := by
  rw [decode_eq_decodeOr]
  induction fields generalizing row with
  | nil => rfl
  | cons field fields induction =>
      cases row with
      | nil => cases width
      | cons value row =>
          rw [decodeOr, decodeOr, induction (Nat.succ.inj width)]

/-- From the left, the first value that does not fit its field. -/
structure FirstRefused (fields : List EntityField) (row : List Value)
    (position : Fin fields.length) (cause : DecodeError) : Prop where
  refused : decodedAt? fields row position = some (.error cause)
  fits : ∀ earlier < position, ∃ element,
    decodedAt? fields row earlier = some (.ok element)

theorem firstRefused_zero_iff {field : EntityField}
    {fields : List EntityField} {value : Value} {row : List Value}
    {cause : DecodeError} :
    FirstRefused (field :: fields) (value :: row) ⟨0, Nat.zero_lt_succ _⟩
        cause ↔
      field.type.ofValue value = .error cause := by
  constructor
  · intro first
    exact Option.some.inj first.refused
  · intro refused
    refine ⟨congrArg some refused, ?_⟩
    intro earlier before
    exact absurd before (Nat.not_lt_zero _)

theorem firstRefused_succ_iff {field : EntityField}
    {fields : List EntityField} {value : Value} {row : List Value}
    {position : Fin fields.length} {cause : DecodeError} :
    FirstRefused (field :: fields) (value :: row) position.succ cause ↔
      (∃ element, field.type.ofValue value = .ok element) ∧
        FirstRefused fields row position cause := by
  constructor
  · intro first
    obtain ⟨element, found⟩ := first.fits 0 position.succ_pos
    refine ⟨⟨element, Option.some.inj found⟩, first.refused, ?_⟩
    intro earlier before
    exact first.fits earlier.succ (Fin.succ_lt_succ_iff.mpr before)
  · rintro ⟨⟨element, fits⟩, first⟩
    refine ⟨first.refused, Fin.cases ?_ ?_⟩
    · intro _
      exact ⟨element, congrArg some fits⟩
    · intro earlier before
      exact first.fits earlier (Fin.succ_lt_succ_iff.mp before)

/-- Every value fits its field, and stands for the element there. -/
def StandsFor (row : List Value) {fields : List EntityField}
    (record : Record fields) : Prop :=
  ∀ position, decodedAt? fields row position = some (.ok (record.get position))

theorem StandsFor.cons {field : EntityField} {fields : List EntityField}
    {value : Value} {row : List Value} {element : field.type.Carrier}
    {rest : Record fields} (fits : field.type.ofValue value = .ok element)
    (others : StandsFor row rest) :
    StandsFor (value :: row) (.cons element rest : Record (field :: fields)) :=
  Fin.cases (congrArg some fits) others

theorem StandsFor.of_cons {field : EntityField} {fields : List EntityField}
    {value : Value} {row : List Value} {element : field.type.Carrier}
    {rest : Record fields}
    (whole : StandsFor (value :: row)
      (.cons element rest : Record (field :: fields))) :
    field.type.ofValue value = .ok element ∧ StandsFor row rest :=
  ⟨Option.some.inj (whole ⟨0, Nat.zero_lt_succ _⟩),
    fun position => whole position.succ⟩

theorem decode_of_standsFor (table : String) {fields : List EntityField}
    {row : List Value} {record : Record fields} (stands : StandsFor row record) :
    decode table fields row = .ok record := by
  induction record generalizing row with
  | nil => rfl
  | @cons field fields element rest induction =>
      cases row with
      | nil => cases stands ⟨0, Nat.zero_lt_succ _⟩
      | cons value row =>
          obtain ⟨fits, others⟩ := stands.of_cons
          simp [decode, fits, induction others]

theorem decode_of_firstRefused (table : String) {fields : List EntityField}
    {row : List Value} {position : Fin fields.length} {cause : DecodeError}
    (first : FirstRefused fields row position cause) :
    decode table fields row =
      .error (.undecodable table (fields.get position).name cause) := by
  induction fields generalizing row with
  | nil => exact position.elim0
  | cons field fields induction =>
      cases row with
      | nil => cases first.refused
      | cons value row =>
          cases position using Fin.cases with
          | zero => simp [decode, firstRefused_zero_iff.mp first]
          | succ position =>
              obtain ⟨⟨element, fits⟩, others⟩ := firstRefused_succ_iff.mp first
              simp [decode, fits, induction others]

/-- As many values as fields stand for a record, or one of them is the first
that does not fit. -/
theorem firstRefused_or_standsFor {fields : List EntityField}
    {row : List Value} (width : row.length = fields.length) :
    (∃ position cause, FirstRefused fields row position cause) ∨
      ∃ record : Record fields, StandsFor row record := by
  induction fields generalizing row with
  | nil => exact .inr ⟨.nil, nofun⟩
  | cons field fields induction =>
      cases row with
      | nil => cases width
      | cons value row =>
          cases decoded : field.type.ofValue value with
          | error cause =>
              exact .inl ⟨_, cause, firstRefused_zero_iff.mpr decoded⟩
          | ok element =>
              rcases induction (Nat.succ.inj width) with
                ⟨position, cause, first⟩ | ⟨rest, others⟩
              · have refused := firstRefused_succ_iff.mpr ⟨⟨_, decoded⟩, first⟩
                exact .inl ⟨position.succ, cause, refused⟩
              · exact .inr ⟨.cons element rest, others.cons decoded⟩

/-- The values of a record stand for it. -/
theorem standsFor_values {fields : List EntityField}
    (record : Record fields) : StandsFor record.values record := by
  induction record with
  | nil => exact nofun
  | @cons field fields element rest induction =>
      exact induction.cons (field.type.ofValue_toValue element)

theorem length_values {fields : List EntityField} (record : Record fields) :
    record.values.length = fields.length := by
  induction record with
  | nil => rfl
  | cons element rest induction => exact congrArg Nat.succ induction

end Record

namespace Entity

/-- What becomes of a row: it has another length than the record, or a first
value that does not fit its field, or else it stands for a record. -/
inductive Reads (entity : Entity) (row : List Value) :
    Except Error entity.Record → Prop where
  | arity :
      row.length ≠ entity.fields.length →
      Reads entity row
        (.error (.rowArity entity.tableName entity.fields.length row.length))
  | unfit {position : Fin entity.fields.length} {cause : DecodeError} :
      row.length = entity.fields.length →
      Record.FirstRefused entity.fields row position cause →
      Reads entity row
        (.error (.undecodable entity.tableName
          (entity.fields.get position).name cause))
  | record {record : entity.Record} :
      row.length = entity.fields.length →
      Record.StandsFor row record →
      Reads entity row (.ok record)

theorem checkArity_eq (entity : Entity) (actual : Nat) :
    entity.schema.checkArity actual =
      if actual = entity.fields.length then .ok ()
      else
        .error (.rowArity entity.tableName entity.fields.length actual) := by
  simp [Schema.checkArity, schema, tableName, Schema.tableName]

theorem ofRow_of_length_ne {entity : Entity} {row : List Value}
    (width : row.length ≠ entity.fields.length) :
    entity.ofRow row =
      .error (.rowArity entity.tableName entity.fields.length row.length) := by
  unfold ofRow
  rw [checkArity_eq, if_neg width]
  rfl

theorem ofRow_of_length {entity : Entity} {row : List Value}
    (width : row.length = entity.fields.length) :
    entity.ofRow row =
      Record.decode entity.tableName entity.fields row := by
  unfold ofRow
  rw [checkArity_eq, if_pos width]
  rfl

theorem Reads.ofRow_eq {entity : Entity} {row : List Value}
    {outcome : Except Error entity.Record} (reads : entity.Reads row outcome) :
    entity.ofRow row = outcome := by
  cases reads with
  | arity width => exact ofRow_of_length_ne width
  | unfit width first =>
      rw [ofRow_of_length width, Record.decode_of_firstRefused _ first]
  | record width stands =>
      rw [ofRow_of_length width, Record.decode_of_standsFor _ stands]

theorem reads_ofRow (entity : Entity) (row : List Value) :
    entity.Reads row (entity.ofRow row) := by
  by_cases width : row.length = entity.fields.length
  · rcases Record.firstRefused_or_standsFor width with
      ⟨position, cause, first⟩ | ⟨record, stands⟩
    · have reads := Reads.unfit width first
      rwa [← reads.ofRow_eq] at reads
    · have reads := Reads.record width stands
      rwa [← reads.ofRow_eq] at reads
  · rw [ofRow_of_length_ne width]
    exact .arity width

theorem ofRow_eq_iff {entity : Entity} {row : List Value}
    {outcome : Except Error entity.Record} :
    entity.ofRow row = outcome ↔ entity.Reads row outcome := by
  constructor
  · rintro rfl
    exact entity.reads_ofRow row
  · exact Reads.ofRow_eq

theorem ofRow_eq_arity_iff {entity : Entity} {row : List Value} :
    entity.ofRow row =
        .error
          (.rowArity entity.tableName entity.fields.length row.length) ↔
      row.length ≠ entity.fields.length := by
  constructor
  · intro refused
    cases ofRow_eq_iff.mp refused with
    | arity width => exact width
  · exact ofRow_of_length_ne

theorem ofRow_values {entity : Entity} (record : entity.Record) :
    entity.ofRow record.values = .ok record :=
  Reads.ofRow_eq (.record record.length_values record.standsFor_values)

/-- Nothing is asked of a value that is missing. -/
theorem ofRow_eq_decodeOr {entity : Entity}
    (missing : (field : EntityField) → Except Error field.type.Carrier)
    (row : List Value) :
    entity.ofRow row = (do
      entity.schema.checkArity row.length
      Record.decodeOr missing entity.tableName entity.fields row) := by
  unfold ofRow
  rw [checkArity_eq]
  split
  case isTrue width => rw [Record.decodeOr_eq_decode missing _ width]
  case isFalse => rfl

/-- A row is refused for its length just when it has another length than the
record; otherwise its first value that does not fit is reported, and if all fit,
the row is the record that it stands for.  A record is read back from its own
values.  A missing value would count as null, but whatever it counted as, no row
would become anything else. -/
theorem materialized_by_position (entity : Entity) :
    (∀ row,
      entity.ofRow row =
          .error
            (.rowArity entity.tableName entity.fields.length row.length) ↔
        row.length ≠ entity.fields.length) ∧
    (∀ row outcome, entity.ofRow row = outcome ↔ entity.Reads row outcome) ∧
    (∀ record : entity.Record, entity.ofRow record.values = .ok record) ∧
    (∀ row,
      Record.decode entity.tableName entity.fields row =
        Record.decodeOr
          (fun field =>
            (field.type.ofValue .null).mapError
              (.undecodable entity.tableName field.name))
          entity.tableName entity.fields row) ∧
    ∀ row missing,
      entity.ofRow row = (do
        entity.schema.checkArity row.length
        Record.decodeOr missing entity.tableName entity.fields row) := by
  refine ⟨?_, ?_, ofRow_values, ?_, ?_⟩
  · intro row
    exact ofRow_eq_arity_iff
  · intro row outcome
    exact ofRow_eq_iff
  · intro row
    exact Record.decode_eq_decodeOr _ _ row
  · intro row missing
    exact ofRow_eq_decodeOr missing row

end Entity

end TypedSql
