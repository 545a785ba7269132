import TypedSql.Schema.DefinitionReading

/-!
# Reading quoted names

A quoted name is read back whatever it contains, if no further quote follows
it.  What is cut off before its closing quote is no quoted name.
-/

namespace TypedSql

namespace Identifier

theorem readQuoted?_plain {first : Char} (noQuote : first ≠ '"')
    (rest : List Char) :
    readQuoted? (first :: rest) =
      (readQuoted? rest).map fun (name, rest) => (first :: name, rest) := by
  rw [readQuoted?]
  · cases readQuoted? rest <;> rfl
  · intro _ isQuote
    exact (noQuote isQuote).elim
  · intro isQuote
    exact noQuote isQuote

theorem readQuoted?_twice (rest : List Char) :
    readQuoted? ('"' :: '"' :: rest) =
      (readQuoted? rest).map fun (name, rest) => ('"' :: name, rest) := by
  rw [readQuoted?]
  cases readQuoted? rest <;> rfl

/-- Quotes that are written twice never close a name. -/
theorem readQuoted?_open (name : List Char) :
    readQuoted? (doubleQuotes name) = none := by
  induction name with
  | nil => rfl
  | cons first name induction =>
      unfold doubleQuotes
      split
      case isTrue => rw [readQuoted?_twice, induction, Option.map_none]
      case isFalse noQuote =>
        rw [readQuoted?_plain noQuote, induction, Option.map_none]

theorem readQuoted?_closed (name : List Char) {rest : List Char}
    (ends : rest.head? ≠ some '"') :
    readQuoted? (doubleQuotes name ++ '"' :: rest) = some (name, rest) := by
  induction name with
  | nil =>
      have noName : doubleQuotes [] = [] := rfl
      rw [noName, List.nil_append, readQuoted?]
      intro _ follows
      rw [follows] at ends
      exact ends rfl
  | cons first name induction =>
      unfold doubleQuotes
      split
      case isTrue isQuote =>
        rw [List.cons_append, List.cons_append, readQuoted?_twice, induction,
          isQuote]
        rfl
      case isFalse noQuote =>
        rw [List.cons_append, readQuoted?_plain noQuote, induction]
        rfl

theorem toList_quote_append (name : String) (rest : List Char) :
    (quote name).toList ++ rest =
      '"' :: (doubleQuotes name.toList ++ '"' :: rest) := by
  simp [quote]

/-- A quoted name is read back if no quote follows it. -/
theorem read?_quote (name : String) {rest : List Char}
    (ends : rest.head? ≠ some '"') :
    read? ((quote name).toList ++ rest) = some (name, rest) := by
  rw [toList_quote_append, read?, readQuoted?_closed name.toList ends]
  simp

/-- Cutting a name off commutes with doubling its quotes. -/
theorem takeWhile_doubleQuotes {mark : Char} (plain : mark ≠ '"')
    (name : List Char) :
    (doubleQuotes name).takeWhile (· ≠ mark) =
      doubleQuotes (name.takeWhile (· ≠ mark)) := by
  induction name with
  | nil => rfl
  | cons first name induction =>
      by_cases isQuote : first = '"'
      · subst isQuote
        simpa [doubleQuotes, plain.symm] using induction
      · by_cases isMark : first = mark
        · subst isMark
          simp [doubleQuotes, isQuote]
        · simpa [doubleQuotes, isQuote, isMark] using induction

/-- Of a text that is cut off at a mark, a quoted name is still read as it was
written, or it is not read at all. -/
theorem eq_of_read?_takeWhile {mark : Char} (plain : mark ≠ '"')
    {name : String} {rest text : List Char} {found : String}
    (ends : rest.head? ≠ some '"')
    (read :
      read? (((quote name).toList ++ rest).takeWhile (· ≠ mark)) =
        some (found, text)) :
    found = name := by
  have quoteKept (rest : List Char) :
      ('"' :: rest).takeWhile (· ≠ mark) =
        '"' :: rest.takeWhile (· ≠ mark) :=
    List.takeWhile_cons_of_pos (decide_eq_true plain.symm)
  rw [toList_quote_append, quoteKept, read?] at read
  simp only [Option.bind_eq_bind, Option.bind_eq_some_iff] at read
  obtain ⟨⟨characters, others⟩, closed, same⟩ := read
  cases same
  rw [List.takeWhile_append] at closed
  split at closed
  case isTrue =>
    rw [quoteKept, readQuoted?_closed] at closed
    · cases closed
      exact String.ofList_toList
    · intro quoted
      apply ends
      cases rest with
      | nil => cases quoted
      | cons first rest =>
          rw [List.takeWhile_cons] at quoted
          split at quoted
          case isTrue => exact quoted
          case isFalse => cases quoted
  case isFalse =>
    rw [takeWhile_doubleQuotes plain, readQuoted?_open] at closed
    cases closed

end Identifier

theorem skipText?_append (expected rest : List Char) :
    skipText? expected (expected ++ rest) = some rest := by
  induction expected with
  | nil => rfl
  | cons first expected induction =>
      rw [List.cons_append, skipText?, if_pos rfl, induction]

theorem skipText?_eq_some_iff {expected text rest : List Char} :
    skipText? expected text = some rest ↔ text = expected ++ rest := by
  constructor
  · intro skipped
    induction expected generalizing text with
    | nil => exact Option.some.inj skipped
    | cons first expected induction =>
        cases text with
        | nil => cases skipped
        | cons character text =>
            rw [skipText?] at skipped
            split at skipped
            case isTrue same => rw [same, induction skipped, List.cons_append]
            case isFalse => cases skipped
  · rintro rfl
    exact skipText?_append expected rest

theorem skipPiece?_eq_some_iff {piece : String} {text rest : List Char} :
    skipPiece? piece text = some rest ↔ text = piece.toList ++ rest :=
  skipText?_eq_some_iff

theorem skipPiece?_append (piece : String) (rest : List Char) :
    skipPiece? piece (piece.toList ++ rest) = some rest :=
  skipText?_append _ _

/-- Behind the first of several texts, each of the others has a separator in
front. -/
theorem toList_intercalate_cons (separator first : String)
    (others : List String) :
    (separator.intercalate (first :: others)).toList =
      first.toList ++
        others.flatMap fun other => separator.toList ++ other.toList := by
  induction others generalizing first with
  | nil => simp
  | cons second others induction =>
      rw [String.intercalate_cons_cons, String.toList_append,
        String.toList_append, induction, List.flatMap_cons,
        List.append_assoc, List.append_assoc]

namespace TableDefinition

theorem name_addPart (table : TableDefinition) (part : Part) :
    (table.addPart part).name = table.name := by
  cases part <;> rfl

theorem name_of_readParts? {fuel : Nat} {table found : TableDefinition}
    {text : List Char} (read : readParts? table fuel text = some found) :
    found.name = table.name := by
  induction fuel generalizing table text with
  | zero => cases read
  | succ fuel induction =>
      unfold readParts? at read
      split at read
      case isTrue =>
        cases read
        rfl
      case isFalse =>
        simp only [Option.bind_eq_bind, Option.bind_eq_some_iff] at read
        obtain ⟨text, -, ⟨part, rest⟩, -, others⟩ := read
        rw [induction others, name_addPart]

end TableDefinition

end TypedSql
