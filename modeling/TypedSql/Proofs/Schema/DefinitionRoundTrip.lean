import TypedSql.Proofs.Schema.QuotedReading

/-!
# Table definitions read back

A written table definition is read back: its name, its columns and its foreign
keys, each in order and whatever stands in the names.  So two schemas with one
create statement agree in all of these.
-/

namespace TypedSql

open Identifier (quote)

theorem Affinity.read?_keyword (affinity : Affinity) (rest : List Char) :
    read? (affinity.keyword.toList ++ rest) = some (affinity, rest) := by
  cases affinity <;> rfl

theorem ColumnDefinition.eq_of_items (column other : ColumnDefinition)
    (same : (column.name, column.affinity, column.isKey) =
      (other.name, other.affinity, other.isKey)) :
    column = other := by
  cases column
  cases other
  cases same
  rfl

/-- What may follow a column: another part, or the end of the statement. -/
inductive EndsPart : List Char → Prop where
  | last : EndsPart [' ', ')']
  | separator (rest : List Char) : EndsPart (',' :: rest)

/-- A column that is no key ends where no key could be written. -/
theorem EndsPart.no_key {rest : List Char} (ends : EndsPart rest) :
    skipPiece? " PRIMARY KEY" rest = none := by
  cases ends <;> rfl

theorem ColumnDefinition.read?_text (column : ColumnDefinition)
    {rest : List Char} (ends : EndsPart rest) :
    read? (column.text.toList ++ rest) = some (column, rest) := by
  obtain ⟨name, affinity, isKey⟩ := column
  have layout : (text ⟨name, affinity, isKey⟩).toList ++ rest =
      (quote name).toList ++ (" ".toList ++
        (affinity.keyword.toList ++
          ((if isKey then " PRIMARY KEY" else "").toList ++ rest))) := by
    simp only [text, String.toList_append, List.append_assoc]
  unfold read?
  rw [layout, Identifier.read?_quote name (by simp)]
  simp only [Option.bind_eq_bind, Option.bind_some]
  rw [skipPiece?_append, Option.bind_some, Affinity.read?_keyword,
    Option.bind_some]
  cases isKey with
  | true =>
      rw [if_pos rfl, skipPiece?_append]
      rfl
  | false =>
      rw [if_neg Bool.false_ne_true, String.toList_empty, List.nil_append,
        ends.no_key]
      rfl

theorem ForeignKey.toList_text (key : ForeignKey) (rest : List Char) :
    key.text.toList ++ rest =
      "FOREIGN KEY (".toList ++ ((quote key.field).toList ++
        (") REFERENCES ".toList ++ ((quote key.table).toList ++
          (" (".toList ++ ((quote key.column).toList ++
            (")".toList ++ rest)))))) := by
  unfold text
  simp only [String.toList_append, List.append_assoc]

theorem ForeignKey.read?_text (key : ForeignKey) (rest : List Char) :
    read? (key.text.toList ++ rest) = some (key, rest) := by
  unfold read?
  rw [key.toList_text, skipPiece?_append]
  simp only [Option.bind_eq_bind, Option.bind_some]
  rw [Identifier.read?_quote key.field (by simp), Option.bind_some,
    skipPiece?_append, Option.bind_some,
    Identifier.read?_quote key.table (by simp), Option.bind_some,
    skipPiece?_append, Option.bind_some,
    Identifier.read?_quote key.column (by simp), Option.bind_some,
    skipPiece?_append]
  rfl

/-- What begins with a foreign key is no column. -/
theorem ForeignKey.no_column (key : ForeignKey) (rest : List Char) :
    ColumnDefinition.read? (key.text.toList ++ rest) = none := by
  rw [key.toList_text]
  rfl

namespace TableDefinition

def Part.text : Part → String
  | .column definition => definition.text
  | .foreignKey key => key.text

/-- The parts of a table in the order in which they are written. -/
def parts (table : TableDefinition) : List Part :=
  table.columns.map .column ++ table.foreignKeys.map .foreignKey

theorem readPart?_text (part : Part) {rest : List Char}
    (ends : EndsPart rest) :
    readPart? (part.text.toList ++ rest) = some (part, rest) := by
  unfold readPart?
  cases part with
  | column definition =>
      rw [Part.text, ColumnDefinition.read?_text definition ends]
  | foreignKey key =>
      rw [Part.text, key.no_column, ForeignKey.read?_text]
      rfl

/-- What stands behind the first part: the other parts, each with a separator in
front, and the end of the statement. -/
def textBehind (others : List Part) : List Char :=
  (others.flatMap fun part => ", ".toList ++ part.text.toList) ++ [' ', ')']

theorem textBehind_cons (part : Part) (others : List Part) :
    textBehind (part :: others) =
      ", ".toList ++ (part.text.toList ++ textBehind others) := by
  simp [textBehind]

theorem endsPart_textBehind (others : List Part) :
    EndsPart (textBehind others) := by
  cases others with
  | nil => exact .last
  | cons part others =>
      rw [textBehind_cons]
      exact .separator _

theorem length_lt_textBehind (others : List Part) :
    others.length < (textBehind others).length := by
  induction others with
  | nil => decide
  | cons part others induction =>
      rw [textBehind_cons, List.length_append, List.length_append,
        List.length_cons]
      have separator : ", ".toList.length = 2 := rfl
      omega

/-- Fuel for each part, and for the end of the statement, is enough. -/
theorem readParts?_textBehind (table : TableDefinition) (others : List Part)
    {fuel : Nat} (enough : others.length < fuel) :
    readParts? table fuel (textBehind others) =
      some (others.foldl addPart table) := by
  induction others generalizing table fuel with
  | nil =>
      obtain _ | fuel := fuel
      · exact absurd enough (Nat.lt_irrefl 0)
      · rfl
  | cons part others induction =>
      obtain _ | fuel := fuel
      · exact absurd enough (Nat.not_lt_zero _)
      have another : textBehind (part :: others) ≠ [' ', ')'] := by
        rw [textBehind_cons]
        intro last
        cases last
      rw [readParts?, if_neg another, textBehind_cons, skipPiece?_append]
      simp only [Option.bind_eq_bind, Option.bind_some]
      rw [readPart?_text part (endsPart_textBehind others), Option.bind_some,
        induction _ (Nat.lt_of_succ_lt_succ enough), List.foldl_cons]

theorem foldl_addPart_column (table : TableDefinition)
    (columns : List ColumnDefinition) :
    (columns.map Part.column).foldl addPart table =
      { table with columns := table.columns ++ columns } := by
  induction columns generalizing table with
  | nil => rw [List.append_nil]; rfl
  | cons column columns induction =>
      rw [List.map_cons, List.foldl_cons, induction]
      simp [addPart]

theorem foldl_addPart_foreignKey (table : TableDefinition)
    (keys : List ForeignKey) :
    (keys.map Part.foreignKey).foldl addPart table =
      { table with foreignKeys := table.foreignKeys ++ keys } := by
  induction keys generalizing table with
  | nil => rw [List.append_nil]; rfl
  | cons key keys induction =>
      rw [List.map_cons, List.foldl_cons, induction]
      simp [addPart]

/-- A table is made up of its parts. -/
theorem foldl_addPart_parts (table : TableDefinition) :
    table.parts.foldl addPart
        { name := table.name, columns := [], foreignKeys := [] } = table := by
  rw [parts, List.foldl_append, foldl_addPart_column,
    foldl_addPart_foreignKey]
  simp only [List.nil_append]

theorem toList_text (table : TableDefinition) :
    table.text.toList =
      "CREATE TABLE ".toList ++ ((quote table.name).toList ++
        (" ( ".toList ++
          ((", ".intercalate (table.parts.map Part.text)).toList ++
            [' ', ')']))) := by
  have written : table.columns.map ColumnDefinition.text ++
      table.foreignKeys.map ForeignKey.text = table.parts.map Part.text := by
    rw [parts, List.map_append, List.map_map, List.map_map]
    rfl
  have unfolded : table.text =
      "CREATE TABLE " ++ quote table.name ++ " ( " ++
        ", ".intercalate (table.parts.map Part.text) ++ " )" := by
    rw [← written]
    rfl
  simp only [unfolded, String.toList_append, List.append_assoc]
  rfl

/-- Every table definition that is written is read back. -/
theorem read?_text (table : TableDefinition) :
    read? table.text = some table := by
  unfold read?
  rw [table.toList_text, skipPiece?_append]
  simp only [Option.bind_eq_bind, Option.bind_some]
  rw [Identifier.read?_quote table.name (by simp), Option.bind_some,
    skipPiece?_append, Option.bind_some]
  have made := table.foldl_addPart_parts
  cases written : table.parts with
  | nil =>
      rw [written] at made
      exact congrArg some made
  | cons part others =>
      rw [written] at made
      have layout :
          (", ".intercalate ((part :: others).map Part.text)).toList ++
              [' ', ')'] =
            part.text.toList ++ textBehind others := by
        rw [List.map_cons, toList_intercalate_cons, List.flatMap_map,
          List.append_assoc]
        rfl
      have read := readPart?_text part (endsPart_textBehind others)
      have another : part.text.toList ++ textBehind others ≠ [' ', ')'] := by
        intro last
        rw [last] at read
        cases read
      rw [layout, if_neg another, read, Option.bind_some,
        readParts?_textBehind _ others (length_lt_textBehind others)]
      exact congrArg some made

theorem text_inj {table other : TableDefinition} :
    table.text = other.text ↔ table = other := by
  constructor
  · intro same
    have read := table.read?_text
    rw [same, other.read?_text] at read
    exact (Option.some.inj read).symm
  · exact congrArg text

end TableDefinition

namespace Schema

theorem definition_eq_iff {schema other : Schema} :
    schema.definition = other.definition ↔
      schema.tableName = other.tableName ∧
      schema.fields.map (fun field =>
          (field.name, field.kind.affinity, field.isKey)) =
        other.fields.map (fun field =>
          (field.name, field.kind.affinity, field.isKey)) ∧
      schema.foreignKeys = other.foreignKeys := by
  have columns : schema.fields.map Field.definition =
      other.fields.map Field.definition ↔
        (schema.fields.map Field.definition).map (fun column =>
            (column.name, column.affinity, column.isKey)) =
          (other.fields.map Field.definition).map (fun column =>
            (column.name, column.affinity, column.isKey)) :=
    (List.map_inj_right ColumnDefinition.eq_of_items).symm
  rw [List.map_map, List.map_map] at columns
  rw [definition, definition, TableDefinition.mk.injEq, columns]
  rfl

/-- Two schemas are created by the same statement if and only if they have the
same table name, columns and foreign keys. -/
theorem createStatement_eq_iff {schema other : Schema} :
    schema.createStatement = other.createStatement ↔
      schema.definition = other.definition :=
  TableDefinition.text_inj

/-- From the statement that creates a table, the table's name, its columns and
its foreign keys are recovered, whatever the names contain and however many
there are.  So schemas with the same statement agree in these, and they need not
agree in anything else. -/
theorem recovered_from_createStatement (schema : Schema) :
    TableDefinition.read? schema.createStatement = some schema.definition ∧
    ∀ other : Schema, schema.createStatement = other.createStatement ↔
      schema.tableName = other.tableName ∧
      schema.fields.map (fun field =>
          (field.name, field.kind.affinity, field.isKey)) =
        other.fields.map (fun field =>
          (field.name, field.kind.affinity, field.isKey)) ∧
      schema.foreignKeys = other.foreignKeys := by
  refine ⟨schema.definition.read?_text, fun other => ?_⟩
  rw [createStatement_eq_iff, definition_eq_iff]

end Schema

end TypedSql
