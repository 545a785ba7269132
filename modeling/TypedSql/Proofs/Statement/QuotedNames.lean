import TypedSql.Proofs.Statement.Alignment
import TypedSql.Proofs.Statement.Wording
import TypedSql.Schema.Definition

/-!
# Statements with quoted names

Inserts and table definitions write names between quotes, where every name is
read as one.
-/

namespace TypedSql

/-- Names stand between quotes, and are read as names in any case. -/
structure QuotedNames (reserved : List String) (sql : String)
    (wording : Wording) : Prop where
  text_eq : sql = wording.spell Identifier.quote
  readsNames : ReadsNames reserved sql wording

theorem QuotedNames.of_text_eq {reserved : List String} {sql : String}
    {wording : Wording} (spaced : wording.Spaced)
    (text : sql = wording.spell Identifier.quote) :
    QuotedNames reserved sql wording where
  text_eq := text
  readsNames := by
    rw [text]
    exact readsNames_quoted spaced

theorem Identifier.doubleQuotes_of_not_mem {name : List Char}
    (noMark : '"' ∉ name) : doubleQuotes name = name := by
  induction name with
  | nil => rfl
  | cons character name induction =>
      rw [List.mem_cons, not_or] at noMark
      obtain ⟨different, others⟩ := noMark
      rw [doubleQuotes, if_neg (Ne.symm different), induction others]

theorem Identifier.quote_of_isIdentifier {name : String}
    (identifier : Lexer.isIdentifier name) :
    quote name = "\"" ++ name ++ "\"" := by
  have noMark : '"' ∉ name.toList := by
    intro member
    have isPart := Lexer.isWordPart_of_isIdentifier identifier _ member
    revert isPart
    decide
  apply String.toList_inj.mp
  simp [quote, doubleQuotes_of_not_mem noMark]

namespace Insert

open Identifier (quote)

/-- An insert under the names of columns, with the names marked. -/
def wordingOf (verb table : String) (names : List String) : Wording :=
  if names.isEmpty then
    [.fixed (verb ++ " INTO "), .mention table,
      .fixed " DEFAULT VALUES RETURNING *"]
  else
    .fixed (verb ++ " INTO ") :: .mention table :: .fixed " (" ::
      (Wording.join ", " (names.map fun name => [.mention name]) ++
        .fixed ") VALUES (" ::
          (Wording.join ", " (names.map fun _ => [.fixed "?"]) ++
            [.fixed ") RETURNING *"]))

/-- An insert with the names in it marked. -/
def wording (schema : Schema) (values : List Value)
    (calls : List InsertCall) : Wording :=
  wordingOf (if calls.any InsertCall.replaces then "REPLACE" else "INSERT")
    schema.tableName ((pairs schema values calls).map (·.1))

theorem spaced_wordingOf (mode : WriteMode) (table : String)
    (names : List String) : (wordingOf mode.keyword table names).Spaced := by
  have opens : Wording.Settled (mode.keyword ++ " INTO ") := by
    cases mode <;> decide
  unfold wordingOf
  split
  case isTrue =>
    apply Wording.Spaced.behind opens
    exact (Wording.Spaced.mention table).ended (by decide)
  case isFalse =>
    have columns :
        (Wording.join ", " (names.map fun name => [.mention name])).Spaced := by
      apply Wording.Spaced.join (by decide)
      intro wording member
      obtain ⟨name, -, rfl⟩ := List.mem_map.mp member
      exact .mention name
    apply Wording.Spaced.behind opens
    apply (Wording.Spaced.mention table).separated (by decide)
    apply columns.separated (by decide)
    exact (Predicate.spaced_marks names).ended (by decide)

theorem text_eq_spell {mode : WriteMode} {table : String}
    {names : List String} (identifier : Lexer.isIdentifier table) :
    text mode table names =
      (wordingOf mode.keyword table names).spell quote := by
  unfold text wordingOf
  split
  case isTrue =>
    have opening : " INTO \"" = " INTO " ++ "\"" := rfl
    have closing :
        "\" DEFAULT VALUES RETURNING *" =
          "\"" ++ " DEFAULT VALUES RETURNING *" := rfl
    simp only [Wording.spell_cons, Wording.spell_nil, Piece.spell,
      Identifier.quote_of_isIdentifier identifier, opening, closing,
      String.append_assoc, String.append_empty]
  case isFalse =>
    simp [Piece.spell, String.append_assoc, Function.comp_def]

theorem quotedNames {schema : Schema} {values : List Value}
    {calls : List InsertCall} {query : Query}
    (identifier : Lexer.isIdentifier schema.tableName)
    (built : ((ofValues schema values).chain calls).build = .ok query)
    (reserved : List String) :
    QuotedNames reserved query.sql (wording schema values calls) := by
  have noError := noError_of_build built
  rw [build_of_noError noError, bindings_eq_pairs noError, schema_chain]
    at built
  cases built
  unfold wording
  rw [← keyword_chain schema values calls]
  exact .of_text_eq (spaced_wordingOf _ _ _) (text_eq_spell identifier)

end Insert

namespace TableDefinition

open Identifier (quote)

def columnWording (column : ColumnDefinition) : Wording :=
  [.mention column.name,
    .fixed (" " ++ column.affinity.keyword ++
      (if column.isKey then " PRIMARY KEY" else ""))]

def foreignKeyWording (key : ForeignKey) : Wording :=
  [.fixed "FOREIGN KEY (", .mention key.field, .fixed ") REFERENCES ",
    .mention key.table, .fixed " (", .mention key.column, .fixed ")"]

/-- The statement that creates a table, with the names in it marked. -/
def wording (table : TableDefinition) : Wording :=
  .fixed "CREATE TABLE " :: .mention table.name :: .fixed " ( " ::
    (Wording.join ", "
        (table.columns.map columnWording ++
          table.foreignKeys.map foreignKeyWording) ++
      [.fixed " )"])

theorem spell_columnWording (column : ColumnDefinition) :
    (columnWording column).spell quote = column.text := by
  unfold columnWording ColumnDefinition.text
  simp only [Wording.spell_cons, Wording.spell_nil, Piece.spell,
    String.append_empty, String.append_assoc]

theorem spell_foreignKeyWording (key : ForeignKey) :
    (foreignKeyWording key).spell quote = key.text := by
  unfold foreignKeyWording ForeignKey.text
  simp only [Wording.spell_cons, Wording.spell_nil, Piece.spell,
    String.append_empty, String.append_assoc]

theorem spaced_columnWording (column : ColumnDefinition) :
    (columnWording column).Spaced := by
  have ends :
      Wording.Ends (" " ++ column.affinity.keyword ++
        (if column.isKey then " PRIMARY KEY" else "")) := by
    cases column.affinity <;> cases column.isKey <;> decide
  exact (Wording.Spaced.mention column.name).ended ends

theorem spaced_foreignKeyWording (key : ForeignKey) :
    (foreignKeyWording key).Spaced := by
  apply Wording.Spaced.behind (by decide)
  apply (Wording.Spaced.mention key.field).separated (by decide)
  apply (Wording.Spaced.mention key.table).separated (by decide)
  exact (Wording.Spaced.mention key.column).ended (by decide)

theorem spaced_wording (table : TableDefinition) : table.wording.Spaced := by
  have parts :
      (Wording.join ", "
        (table.columns.map columnWording ++
          table.foreignKeys.map foreignKeyWording)).Spaced := by
    apply Wording.Spaced.join (by decide)
    intro wording member
    rcases List.mem_append.mp member with isColumn | isKey
    · obtain ⟨column, -, rfl⟩ := List.mem_map.mp isColumn
      exact spaced_columnWording column
    · obtain ⟨key, -, rfl⟩ := List.mem_map.mp isKey
      exact spaced_foreignKeyWording key
  apply Wording.Spaced.behind (by decide)
  apply (Wording.Spaced.mention table.name).separated (by decide)
  exact parts.ended (by decide)

theorem quotedNames (table : TableDefinition) (reserved : List String) :
    QuotedNames reserved table.text table.wording := by
  apply QuotedNames.of_text_eq table.spaced_wording
  unfold text wording
  simp only [Wording.spell_cons, Wording.spell_nil, Wording.spell_append,
    Wording.spell_join, Piece.spell, List.map_append, List.map_map,
    Function.comp_def, spell_columnWording, spell_foreignKeyWording,
    String.append_empty, String.append_assoc]

end TableDefinition

end TypedSql
