import TypedSql.Proofs.Text.Lexing

/-!
# Wordings

A wording is a text in which the names of tables and columns are marked.  It
leaves open how names are written: as bare words, or between quotes.  A lexer
reads a well-spaced wording piece by piece, so what becomes of a name depends on
nothing but the name and how it is written.
-/

namespace TypedSql

inductive Piece where
  | fixed (text : String)
  /-- The name of a table or column. -/
  | mention (name : String)

abbrev Wording := List Piece

namespace Piece

def spell (write : String → String) : Piece → String
  | .fixed text => text
  | .mention name => write name

/-- What a lexer reads a piece as, if it reads a name as one token. -/
def tokens (reserved : List String) (token : String → Token) :
    Piece → List Token
  | .fixed text => lex reserved text
  | .mention name => [token name]

def name? : Piece → Option String
  | .fixed _ => none
  | .mention name => some name

end Piece

namespace Wording

/-- The text of a wording in which names are written in a certain way. -/
def spell (write : String → String) (wording : Wording) : String :=
  String.join (wording.map (Piece.spell write))

def names (wording : Wording) : List String :=
  wording.filterMap Piece.name?

def join (separator : String) (wordings : List Wording) : Wording :=
  [Piece.fixed separator].intercalate wordings

theorem join_cons_cons (separator : String) (first second : Wording)
    (others : List Wording) :
    join separator (first :: second :: others) =
      first ++ .fixed separator :: join separator (second :: others) := by
  simp [join]

@[simp] theorem spell_nil (write : String → String) : spell write [] = "" :=
  rfl

@[simp] theorem spell_cons (write : String → String) (piece : Piece)
    (wording : Wording) :
    spell write (piece :: wording) =
      piece.spell write ++ spell write wording := by
  simp [spell]

@[simp] theorem spell_append (write : String → String)
    (left right : Wording) :
    spell write (left ++ right) = spell write left ++ spell write right := by
  simp [spell]

@[simp] theorem spell_join (write : String → String) (separator : String)
    (wordings : List Wording) :
    spell write (join separator wordings) =
      separator.intercalate (wordings.map (spell write)) := by
  induction wordings with
  | nil => rfl
  | cons first others induction =>
      cases others with
      | nil => simp [join]
      | cons second others =>
          simp only [List.map_cons] at induction ⊢
          rw [join_cons_cons, spell_append, spell_cons, induction,
            String.intercalate_cons_cons, String.append_assoc]
          rfl

@[simp] theorem names_nil : names [] = [] :=
  rfl

@[simp] theorem names_fixed (text : String) (wording : Wording) :
    names (.fixed text :: wording) = names wording :=
  rfl

@[simp] theorem names_mention (name : String) (wording : Wording) :
    names (.mention name :: wording) = name :: names wording :=
  rfl

@[simp] theorem names_append (left right : Wording) :
    names (left ++ right) = names left ++ names right :=
  List.filterMap_append

@[simp] theorem names_join (separator : String) (wordings : List Wording) :
    names (join separator wordings) = wordings.flatMap names := by
  induction wordings with
  | nil => rfl
  | cons first others induction =>
      cases others with
      | nil => simp [join]
      | cons second others =>
          rw [join_cons_cons, names_append, names_fixed, induction]
          rfl

/-- Whatever comes behind the text begins a token. -/
def Settled (text : String) : Prop :=
  (Lexer.pendingAfter .idle text.toList).isSettled

/-- What comes behind the text begins a token if it is set apart. -/
def Complete (text : String) : Prop :=
  (Lexer.pendingAfter .idle text.toList).isComplete

/-- The text continues no name in front of it. -/
def SetApart (text : String) : Prop :=
  text ≠ "" ∧ Lexer.Apart text.toList

instance (text : String) : Decidable (Settled text) :=
  inferInstanceAs (Decidable (_ = true))

instance (text : String) : Decidable (Complete text) :=
  inferInstanceAs (Decidable (_ = true))

instance (text : String) : Decidable (SetApart text) :=
  inferInstanceAs (Decidable (_ ∧ _))

/-- The text ends a name in front of it, and may end a wording. -/
def Ends (text : String) : Prop :=
  Complete text ∧ SetApart text

/-- The text keeps whatever is around it apart. -/
def Separates (text : String) : Prop :=
  Settled text ∧ SetApart text

instance (text : String) : Decidable (Ends text) :=
  inferInstanceAs (Decidable (_ ∧ _))

instance (text : String) : Decidable (Separates text) :=
  inferInstanceAs (Decidable (_ ∧ _))

def Apart : Wording → Prop
  | [] => True
  | .fixed text :: _ => SetApart text
  | .mention _ :: _ => False

/-- Between any two pieces one token ends and another begins. -/
inductive Spaced : Wording → Prop where
  | nil : Spaced []
  | mention (name : String) : Spaced [.mention name]
  | fixed {text : String} : Complete text → Spaced [.fixed text]
  | behind {text : String} {wording : Wording} :
      Settled text → Spaced wording → Spaced (.fixed text :: wording)
  | append {left right : Wording} :
      Spaced left → Spaced right → right.Apart → Spaced (left ++ right)

theorem Spaced.ended {text : String} {wording : Wording}
    (spaced : wording.Spaced) (ends : Ends text) :
    (wording ++ [Piece.fixed text]).Spaced :=
  spaced.append (.fixed ends.1) ends.2

theorem Spaced.separated {text : String} {left right : Wording}
    (leftSpaced : left.Spaced) (separates : Separates text)
    (rightSpaced : right.Spaced) :
    (left ++ Piece.fixed text :: right).Spaced :=
  leftSpaced.append (.behind separates.1 rightSpaced) separates.2

theorem Spaced.join {separator : String} (separates : Separates separator)
    {wordings : List Wording} (spaced : ∀ wording ∈ wordings, wording.Spaced) :
    (Wording.join separator wordings).Spaced := by
  induction wordings with
  | nil => exact .nil
  | cons first others induction =>
      obtain ⟨firstSpaced, othersSpaced⟩ := List.forall_mem_cons.mp spaced
      have rest := induction othersSpaced
      cases others with
      | nil => simpa [Wording.join] using firstSpaced
      | cons second others =>
          rw [join_cons_cons]
          exact firstSpaced.separated separates rest

theorem Apart.spell {write : String → String} {wording : Wording}
    (apart : wording.Apart) {rest : List Char} (restApart : Lexer.Apart rest) :
    Lexer.Apart ((wording.spell write).toList ++ rest) := by
  cases wording with
  | nil => exact restApart
  | cons piece wording =>
      cases piece with
      | mention name => exact apart.elim
      | fixed text =>
          obtain ⟨nonempty, textApart⟩ := apart
          rw [spell_cons, String.toList_append, List.append_assoc]
          change Lexer.Apart (text.toList ++ _)
          cases characters : text.toList with
          | nil =>
              have isEmpty := String.toList_eq_nil_iff.mp characters
              exact (nonempty isEmpty).elim
          | cons character others =>
              rw [characters] at textApart
              exact textApart

section

variable {reserved : List String} {write : String → String}
  {token : String → Token}

/-- A well-spaced wording is read piece by piece. -/
theorem Spaced.tokensFrom_spell {wording : Wording} (spaced : wording.Spaced)
    (reads : ∀ name ∈ wording.names,
      Lexer.ReadsName reserved (write name) (token name))
    {rest : List Char} (apart : Lexer.Apart rest) :
    Lexer.tokensFrom reserved .idle ((wording.spell write).toList ++ rest) =
      wording.flatMap (Piece.tokens reserved token) ++
        Lexer.tokensFrom reserved .idle rest := by
  -- The rest is left open: it stands for the pieces behind the one in question.
  induction spaced generalizing rest with
  | nil => rfl
  | mention name =>
      obtain ⟨isToken, complete⟩ := reads name (by simp)
      have cut := Lexer.tokensFrom_append reserved
        (Lexer.breaks_of_isComplete complete apart)
      simpa [Piece.spell, Piece.tokens, isToken] using cut
  | fixed complete =>
      have cut := Lexer.tokensFrom_append reserved
        (Lexer.breaks_of_isComplete complete apart)
      simpa [Piece.spell, Piece.tokens, lex] using cut
  | @behind text wording settled spaced induction =>
      have cut := Lexer.tokensFrom_append reserved
        (Lexer.breaks_of_isSettled settled
          ((wording.spell write).toList ++ rest))
      rw [spell_cons, String.toList_append, List.append_assoc,
        List.flatMap_cons, List.append_assoc, ← induction reads apart]
      exact cut
  | append leftSpaced rightSpaced rightApart leftInduction rightInduction =>
      rw [names_append] at reads
      obtain ⟨leftReads, rightReads⟩ := List.forall_mem_append.mp reads
      rw [spell_append, String.toList_append, List.append_assoc,
        leftInduction leftReads (rightApart.spell apart),
        rightInduction rightReads apart, List.flatMap_append,
        List.append_assoc]

theorem Spaced.lex_spell {wording : Wording} (spaced : wording.Spaced)
    (reads : ∀ name ∈ wording.names,
      Lexer.ReadsName reserved (write name) (token name)) :
    lex reserved (wording.spell write) =
      wording.flatMap (Piece.tokens reserved token) := by
  have atEnd : Lexer.Apart [] := trivial
  have whole := spaced.tokensFrom_spell reads atEnd
  simpa [lex, Lexer.tokensFrom, Lexer.Pending.tokens] using whole

end

/-- Two ways to read names give the same tokens only if they agree on each
name. -/
theorem flatMap_tokens_eq_iff {reserved : List String}
    {first second : String → Token} {wording : Wording} :
    wording.flatMap (Piece.tokens reserved first) =
        wording.flatMap (Piece.tokens reserved second) ↔
      ∀ name ∈ wording.names, first name = second name := by
  induction wording with
  | nil => simp
  | cons piece wording induction =>
      cases piece with
      | fixed text => simpa [Piece.tokens] using induction
      | mention name => simpa [Piece.tokens] using fun _ => induction

end Wording

/-- A lexer reads an identifier wherever the wording names something, and the
same as in the wording everywhere else. -/
def ReadsNames (reserved : List String) (sql : String) (wording : Wording) :
    Prop :=
  lex reserved sql =
    wording.flatMap (Piece.tokens reserved Token.identifier)

theorem Lexer.wordToken_eq_identifier {reserved : List String}
    {word : String} :
    wordToken reserved word = .identifier word ↔
      isReserved reserved word = false := by
  unfold wordToken
  cases isReserved reserved word <;> simp

/-- Bare words are read as names unless they are reserved. -/
theorem readsNames_bare {reserved : List String} {wording : Wording}
    (spaced : wording.Spaced)
    (identifiers : ∀ name ∈ wording.names, Lexer.isIdentifier name) :
    ReadsNames reserved (wording.spell id) wording ↔
      ∀ name ∈ wording.names, Lexer.isReserved reserved name = false := by
  have words :
      lex reserved (wording.spell id) =
        wording.flatMap (Piece.tokens reserved (Lexer.wordToken reserved)) := by
    apply spaced.lex_spell
    intro name member
    exact Lexer.readsName_of_isIdentifier (identifiers name member)
  unfold ReadsNames
  rw [words, Wording.flatMap_tokens_eq_iff]
  simp only [Lexer.wordToken_eq_identifier]

/-- Between quotes every name is read as one. -/
theorem readsNames_quoted {reserved : List String} {wording : Wording}
    (spaced : wording.Spaced) :
    ReadsNames reserved (wording.spell Identifier.quote) wording :=
  spaced.lex_spell fun name _ => Lexer.readsName_quote name

end TypedSql
