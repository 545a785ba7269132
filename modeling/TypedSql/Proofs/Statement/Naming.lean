import TypedSql.Proofs.Statement.BareNames
import TypedSql.Proofs.Statement.QuotedNames
import TypedSql.Proofs.Text.LowercaseName

/-!
# Names in statements

What a schema names can be defined and inserted into, but not every name can be
mentioned by the other statements.  They write names without quotes, and a
storage engine reads the words that it reserves as keywords.
-/

namespace TypedSql

/-- Entity and fields are named by words that can stand without quotes. -/
structure Schema.HasIdentifiers (schema : Schema) : Prop where
  entity : Lexer.isIdentifier schema.name
  fields : ∀ field ∈ schema.fields, Lexer.isIdentifier field.name

theorem Schema.HasIdentifiers.of_mem_names {schema : Schema}
    (identifiers : schema.HasIdentifiers) {name : String}
    (member : name ∈ schema.names) : Lexer.isIdentifier name := by
  rcases List.mem_cons.mp member with rfl | isField
  · exact Lexer.isIdentifier_lowercase identifiers.entity
  · obtain ⟨field, fieldMember, rfl⟩ := List.mem_map.mp isField
    exact identifiers.fields field fieldMember

/-- Whichever words are reserved, definitions of tables and inserts are read
with all names in their places.  Other statements that are built over a schema
are so exactly if no name in them is reserved. -/
theorem names_read_unless_reserved (reserved : List String) (schema : Schema)
    (identifiers : schema.HasIdentifiers) :
    (∀ (selection : Selection) (calls : List SelectCall) (query : Query),
      (∀ name ∈ selection.names ++ calls.flatMap SelectCall.names,
        name ∈ schema.names) →
      ((Select.ofSelection selection).chain calls).build = .ok query →
        BareNames reserved query.sql (Select.wording selection calls)) ∧
    (∀ (assignments : List Assignment) (calls : List UpdateCall)
      (query : Query),
      (∀ name ∈ Update.names assignments ++ calls.flatMap UpdateCall.names,
        name ∈ schema.names) →
      ((Update.ofAssignments assignments).chain calls).build = .ok query →
        BareNames reserved query.sql (Update.wording assignments calls)) ∧
    (∀ (selection : Selection) (calls : List DeleteCall) (query : Query),
      (∀ name ∈ selection.names ++ calls.flatMap DeleteCall.names,
        name ∈ schema.names) →
      ((Delete.ofSelection selection).chain calls).build = .ok query →
        BareNames reserved query.sql (Delete.wording selection calls)) ∧
    (∀ (values : List Value) (calls : List InsertCall) (query : Query),
      ((Insert.ofValues schema values).chain calls).build = .ok query →
        QuotedNames reserved query.sql
          (Insert.wording schema values calls)) ∧
    QuotedNames reserved schema.createStatement schema.definition.wording := by
  refine ⟨?_, ?_, ?_, ?_, ?_⟩
  · intro selection calls query own built
    apply Select.bareNames _ built
    intro name member
    exact identifiers.of_mem_names (own name member)
  · intro assignments calls query own built
    apply Update.bareNames _ built
    intro name member
    exact identifiers.of_mem_names (own name member)
  · intro selection calls query own built
    apply Delete.bareNames _ built
    intro name member
    exact identifiers.of_mem_names (own name member)
  · intro values calls query built
    apply Insert.quotedNames _ built
    exact identifiers.of_mem_names List.mem_cons_self
  · exact schema.definition.quotedNames reserved

/-- Words that the storage engine reserves. -/
def reservedWords : List String :=
  ["ADD", "ALL", "ALTER", "AND", "AS", "AUTOINCREMENT", "BETWEEN", "CASE",
    "CHECK", "COLLATE", "COMMIT", "CONSTRAINT", "CREATE", "DEFAULT",
    "DEFERRABLE", "DELETE", "DISTINCT", "DROP", "ELSE", "ESCAPE", "EXCEPT",
    "EXISTS", "FOREIGN", "FROM", "GROUP", "HAVING", "IN", "INDEX", "INSERT",
    "INTERSECT", "INTO", "IS", "ISNULL", "JOIN", "LIMIT", "NOT", "NOTHING",
    "NOTNULL", "NULL", "ON", "OR", "ORDER", "PRIMARY", "REFERENCES",
    "RETURNING", "SELECT", "SET", "TABLE", "THEN", "TO", "TRANSACTION",
    "UNION", "UNIQUE", "UPDATE", "USING", "VALUES", "WHEN", "WHERE"]

instance (reserved : List String) (sql : String) (wording : Wording) :
    Decidable (ReadsNames reserved sql wording) :=
  inferInstanceAs (Decidable (_ = _))

theorem names_read_unless_reserved_people :
    let people := (Schema.empty "People").addField (.ofKind "age" .integer)
    let adult : Predicate :=
      .compare people.tableName "age" .ge (.integer 18)
    let raise : Assignment :=
      { table := people.tableName
        column := "age"
        operation := .add
        operand := .integer 1 }
    (∃ query,
      ((Select.ofSelection (.rows people)).chain [.filter adult]).build =
          .ok query ∧
        ReadsNames reservedWords query.sql
          (Select.wording (.rows people) [.filter adult])) ∧
    (∃ query,
      ((Update.ofAssignments [raise]).chain [.filter adult]).build =
          .ok query ∧
        BareNames reservedWords query.sql
          (Update.wording [raise] [.filter adult])) ∧
    (∃ query,
      ((Delete.ofSelection (.rows people)).chain [.filter adult]).build =
          .ok query ∧
        BareNames reservedWords query.sql
          (Delete.wording (.rows people) [.filter adult])) ∧
    (∃ query,
      ((Insert.ofValues people [.integer 18]).chain [.replace]).build =
          .ok query ∧
        QuotedNames reservedWords query.sql
          (Insert.wording people [.integer 18] [.replace])) := by
  dsimp only
  obtain ⟨selects, updates, deletes, inserts, -⟩ :=
    names_read_unless_reserved reservedWords
      ((Schema.empty "People").addField (.ofKind "age" .integer))
      ⟨by decide, by decide⟩
  refine ⟨?_, ?_, ?_, ?_⟩
  · refine ⟨_, rfl, ?_⟩
    apply (selects _ _ _ (by decide) rfl).readsNames_iff.mpr
    decide
  · exact ⟨_, rfl, updates _ _ _ (by decide) rfl⟩
  · exact ⟨_, rfl, deletes _ _ _ (by decide) rfl⟩
  · exact ⟨_, rfl, inserts _ _ _ rfl⟩

/-- A table that can be created but not selected from. -/
theorem order_read_as_keyword :
    let order := (Schema.empty "Order").addField (.ofKind "id" .integer)
    order.HasIdentifiers ∧
      ReadsNames reservedWords order.createStatement
        order.definition.wording ∧
      ∃ query,
        (Select.ofSelection (.rows order)).build = .ok query ∧
          query.sql = "SELECT * FROM order" ∧
          ¬ReadsNames reservedWords query.sql
            (Select.wording (.rows order) []) := by
  refine ⟨⟨by decide, by decide⟩, ?_, _, rfl, ?_, ?_⟩
  · decide
  · decide
  · decide

end TypedSql
