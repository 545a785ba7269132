import Mathlib.Data.List.Basic
import TypedSql.Schema.Identifier

/-!
# Tokens of a text

The storage engine takes the text of a statement apart into tokens, from left to
right and each as long as can be.  A word is an identifier unless it is
reserved; between double quotes any name is one.  Which words are reserved is
up to the engine, and left open here.  Comments, bracketed names and blob
literals are not read, since no statement contains any.
-/

namespace TypedSql

inductive Token where
  | keyword (word : String)
  | identifier (name : String)
  | literal (text : String)
  | number (digits : String)
  | symbol (characters : String)
  /-- A quotation without its end. -/
  | illegal (text : String)
deriving DecidableEq, Repr

namespace Lexer

def isSpace (character : Char) : Bool :=
  character.isWhitespace || character = '\x0c'

/-- Beyond ASCII every character is part of a word. -/
def isWordStart (character : Char) : Bool :=
  character.isAlpha || character = '_' || 0x80 ≤ character.toNat

def isWordPart (character : Char) : Bool :=
  isWordStart character || character.isDigit || character = '$'

/-- A double quote, an apostrophe and a backquote. -/
def quoteMarks : List Char :=
  ['"', '\x27', '\x60']

/-- Symbols of several characters. -/
def compounds : List (List Char) :=
  [['<', '='], ['<', '>'], ['<', '<'], ['>', '='], ['>', '>'], ['=', '='],
    ['!', '='], ['|', '|'], ['-', '>'], ['-', '>', '>']]

/-- The token that has been begun, with its characters so far. -/
inductive Pending where
  | idle
  | word (read : List Char)
  | number (read : List Char)
  | symbol (read : List Char)
  | quoted (mark : Char) (read : List Char)
  /-- A quote mark inside a quotation, which ends it unless there are two. -/
  | closing (mark : Char) (read : List Char)
deriving DecidableEq

namespace Pending

/-- What a character begins. -/
def start (character : Char) : Pending :=
  if isSpace character then .idle
  else if isWordStart character then .word [character]
  else if character.isDigit then .number [character]
  else if quoteMarks.contains character then .quoted character []
  else .symbol [character]

/-- What is pending together with one more character, unless the character
begins something else. -/
def extend? : Pending → Char → Option Pending
  | .idle, _ => none
  | .word read, character =>
      if isWordPart character then some (.word (read ++ [character]))
      else none
  | .number read, character =>
      if isWordPart character || character = '.' then
        some (.number (read ++ [character]))
      else none
  | .symbol read, character =>
      if compounds.contains (read ++ [character]) then
        some (.symbol (read ++ [character]))
      else none
  | .quoted mark read, character =>
      if character = mark then some (.closing mark read)
      else some (.quoted mark (read ++ [character]))
  | .closing mark read, character =>
      if character = mark then some (.quoted mark (read ++ [character]))
      else none

end Pending

/-- Whether a word is reserved, in upper or lower case. -/
def isReserved (reserved : List String) (word : String) : Bool :=
  reserved.contains (String.ofList (word.toList.map Char.toUpper))

def wordToken (reserved : List String) (word : String) : Token :=
  if isReserved reserved word then .keyword word else .identifier word

/-- Single quotes are for literals, the others for names. -/
def quotedToken (mark : Char) (text : String) : Token :=
  if mark = '\x27' then .literal text else .identifier text

/-- The token that is pending at its end. -/
def Pending.tokens (reserved : List String) : Pending → List Token
  | .idle => []
  | .word read => [wordToken reserved (String.ofList read)]
  | .number read => [.number (String.ofList read)]
  | .symbol read => [.symbol (String.ofList read)]
  | .quoted mark read => [.illegal (String.ofList (mark :: read))]
  | .closing mark read => [quotedToken mark (String.ofList read)]

/-- The tokens of the rest of a text. -/
def tokensFrom (reserved : List String) : Pending → List Char → List Token
  | pending, [] => pending.tokens reserved
  | pending, character :: rest =>
      match pending.extend? character with
      | some extended => tokensFrom reserved extended rest
      | none =>
          pending.tokens reserved ++
            tokensFrom reserved (Pending.start character) rest

/-- What is pending behind a text. -/
def pendingAfter : Pending → List Char → Pending
  | pending, [] => pending
  | pending, character :: rest =>
      pendingAfter
        ((pending.extend? character).getD (Pending.start character)) rest

end Lexer

/-- The tokens of a text. -/
def lex (reserved : List String) (sql : String) : List Token :=
  Lexer.tokensFrom reserved .idle sql.toList

namespace Lexer

/-- The rest of a text begins with something else than what is pending. -/
def Breaks (pending : Pending) : List Char → Prop
  | [] => True
  | character :: _ => pending.extend? character = none

/-- A text may be cut where something else begins. -/
theorem tokensFrom_append (reserved : List String) {pending : Pending}
    {text rest : List Char}
    (breaks : Breaks (pendingAfter pending text) rest) :
    tokensFrom reserved pending (text ++ rest) =
      tokensFrom reserved pending text ++ tokensFrom reserved .idle rest := by
  -- What is pending changes on the way to the cut, so it is left open.
  induction text generalizing pending with
  | nil =>
      cases rest with
      | nil => simp [tokensFrom, Pending.tokens]
      | cons character rest =>
          have ended : pending.extend? character = none := breaks
          simp only [List.nil_append, tokensFrom, ended]
          rfl
  | cons character text induction =>
      rw [pendingAfter] at breaks
      rw [List.cons_append, tokensFrom, tokensFrom]
      cases extended : pending.extend? character with
      | some next =>
          rw [extended] at breaks
          exact induction breaks
      | none =>
          rw [extended] at breaks
          rw [List.append_assoc]
          exact congrArg _ (induction breaks)

/-- Whatever comes next is something else. -/
def Pending.isSettled : Pending → Bool
  | .idle => true
  | .symbol read => !compounds.any (read.isPrefixOf ·)
  | _ => false

theorem breaks_of_isSettled {pending : Pending} (settled : pending.isSettled)
    (rest : List Char) : Breaks pending rest := by
  cases rest with
  | nil => trivial
  | cons character rest =>
      cases pending with
      | idle => rfl
      | symbol read =>
          simp only [Pending.isSettled, Bool.not_eq_true', List.any_eq_false]
            at settled
          have single : read ++ [character] ∉ compounds := by
            intro member
            apply settled _ member
            simp
          simp [Breaks, Pending.extend?, single]
      | word read => cases settled
      | number read => cases settled
      | quoted mark read => cases settled
      | closing mark read => cases settled

/-- Characters that continue nothing but a quotation. -/
def separators : List Char :=
  [' ', '(', ')', ',']

theorem of_mem_separators {separator : Char}
    (member : separator ∈ separators) :
    isWordPart separator = false ∧ separator ≠ '.' ∧
      (∀ compound ∈ compounds, separator ∉ compound) ∧
      separator ∉ quoteMarks := by
  simp only [separators, List.mem_cons, List.not_mem_nil, or_false] at member
  rcases member with rfl | rfl | rfl | rfl <;> decide

/-- The text is empty or begins with a separator. -/
def Apart : List Char → Prop
  | [] => True
  | character :: _ => character ∈ separators

instance (text : List Char) : Decidable (Apart text) :=
  match text with
  | [] => .isTrue trivial
  | character :: _ => inferInstanceAs (Decidable (character ∈ separators))

/-- No quotation is open. -/
def Pending.isComplete : Pending → Bool
  | .quoted _ _ => false
  | .closing mark _ => quoteMarks.contains mark
  | _ => true

theorem breaks_of_isComplete {pending : Pending}
    (complete : pending.isComplete) {rest : List Char} (apart : Apart rest) :
    Breaks pending rest := by
  cases rest with
  | nil => trivial
  | cons character rest =>
      obtain ⟨noWord, noPoint, noCompound, noMark⟩ := of_mem_separators apart
      cases pending with
      | idle => rfl
      | word read => simp [Breaks, Pending.extend?, noWord]
      | number read => simp [Breaks, Pending.extend?, noWord, noPoint]
      | symbol read =>
          have single : read ++ [character] ∉ compounds := by
            intro member
            exact noCompound _ member (by simp)
          simp [Breaks, Pending.extend?, single]
      | quoted mark read => cases complete
      | closing mark read =>
          have marks : mark ∈ quoteMarks := by
            simpa [Pending.isComplete] using complete
          have different : character ≠ mark := by
            intro same
            exact noMark (same ▸ marks)
          simp [Breaks, Pending.extend?, different]

variable {reserved : List String}

/-- A name is read as one token, unless it is continued. -/
structure ReadsName (reserved : List String) (written : String)
    (token : Token) : Prop where
  tokens : tokensFrom reserved .idle written.toList = [token]
  complete : (pendingAfter .idle written.toList).isComplete

/-- A word that can stand as a name without quotes. -/
def isIdentifier (name : String) : Bool :=
  match name.toList with
  | [] => false
  | first :: others => isWordStart first && others.all isWordPart

theorem isWordPart_of_isIdentifier {name : String}
    (identifier : isIdentifier name) :
    ∀ character ∈ name.toList, isWordPart character := by
  unfold isIdentifier at identifier
  cases characters : name.toList with
  | nil => simp
  | cons first others =>
      simp only [characters, Bool.and_eq_true, List.all_eq_true] at identifier
      obtain ⟨isStart, parts⟩ := identifier
      have firstPart : isWordPart first := by simp [isWordPart, isStart]
      exact List.forall_mem_cons.mpr ⟨firstPart, parts⟩

theorem pendingAfter_word {read others : List Char}
    (parts : others.all isWordPart) :
    pendingAfter (.word read) others = .word (read ++ others) := by
  induction others generalizing read with
  | nil => simp [pendingAfter]
  | cons character others induction =>
      simp only [List.all_cons, Bool.and_eq_true] at parts
      obtain ⟨part, othersParts⟩ := parts
      simp [pendingAfter, Pending.extend?, part, induction othersParts]

theorem tokensFrom_word {read others : List Char}
    (parts : others.all isWordPart) :
    tokensFrom reserved (.word read) others =
      [wordToken reserved (String.ofList (read ++ others))] := by
  induction others generalizing read with
  | nil => simp [tokensFrom, Pending.tokens]
  | cons character others induction =>
      simp only [List.all_cons, Bool.and_eq_true] at parts
      obtain ⟨part, othersParts⟩ := parts
      simp [tokensFrom, Pending.extend?, part, induction othersParts]

theorem isSpace_eq_false_of_isWordStart {character : Char}
    (isStart : isWordStart character) : isSpace character = false := by
  cases space : isSpace character with
  | false => rfl
  | true =>
      simp only [isSpace, Char.isWhitespace, Bool.or_eq_true,
        decide_eq_true_eq] at space
      rcases space with (((rfl | rfl) | rfl) | rfl) | rfl <;>
        revert isStart <;> decide

/-- A name without quotes is read as the word that it is. -/
theorem readsName_of_isIdentifier {name : String}
    (identifier : isIdentifier name) :
    ReadsName reserved name (wordToken reserved name) := by
  unfold isIdentifier at identifier
  cases characters : name.toList with
  | nil => simp [characters] at identifier
  | cons first others =>
      simp only [characters, Bool.and_eq_true] at identifier
      obtain ⟨isStart, parts⟩ := identifier
      have begins : Pending.start first = .word [first] := by
        simp [Pending.start, isSpace_eq_false_of_isWordStart isStart, isStart]
      have same : String.ofList (first :: others) = name := by
        rw [← characters, String.ofList_toList]
      constructor
      · rw [characters, tokensFrom]
        simp [Pending.extend?, Pending.tokens, begins, tokensFrom_word parts,
          same]
      · rw [characters, pendingAfter]
        simp [Pending.extend?, begins, pendingAfter_word parts,
          Pending.isComplete]

open Identifier (doubleQuotes quote)

theorem pendingAfter_quoted (read name : List Char) :
    pendingAfter (.quoted '"' read) (doubleQuotes name ++ ['"']) =
      .closing '"' (read ++ name) := by
  induction name generalizing read with
  | nil => simp [doubleQuotes, pendingAfter, Pending.extend?]
  | cons character name induction =>
      by_cases mark : character = '"'
      · simp [doubleQuotes, mark, pendingAfter, Pending.extend?, induction]
      · simp [doubleQuotes, mark, pendingAfter, Pending.extend?, induction]

theorem tokensFrom_quoted (read name : List Char) :
    tokensFrom reserved (.quoted '"' read) (doubleQuotes name ++ ['"']) =
      [.identifier (String.ofList (read ++ name))] := by
  induction name generalizing read with
  | nil =>
      simp [doubleQuotes, tokensFrom, Pending.extend?, Pending.tokens,
        quotedToken]
  | cons character name induction =>
      by_cases mark : character = '"'
      · simp [doubleQuotes, mark, tokensFrom, Pending.extend?, induction]
      · simp [doubleQuotes, mark, tokensFrom, Pending.extend?, induction]

/-- Between quotes any name is an identifier. -/
theorem readsName_quote (name : String) :
    ReadsName reserved (quote name) (.identifier name) := by
  have characters :
      (quote name).toList = '"' :: (doubleQuotes name.toList ++ ['"']) := by
    simp [quote]
  have begins : Pending.start '"' = .quoted '"' [] := by decide
  constructor
  · rw [characters, tokensFrom]
    simp [Pending.extend?, Pending.tokens, begins, tokensFrom_quoted]
  · rw [characters, pendingAfter]
    simp [Pending.extend?, begins, pendingAfter_quoted, Pending.isComplete,
      quoteMarks]

end Lexer

end TypedSql
