import TypedSql.Value

/-!
# Placeholders

A text with placeholders reads, together with the data bound to them, as a
passage in which every datum stands in the place of its placeholder.  Texts
read piece by piece, as long as a piece takes exactly the data that are its
own.
-/

namespace TypedSql

/-- A text in which data stand among the characters. -/
abbrev Passage := List (Char ⊕ Datum)

namespace Passage

def ofText (text : String) : Passage :=
  text.toList.map Sum.inl

/-- A value, in its stored form, in the place where it is used. -/
def operand (value : Value) : Passage :=
  [.inr value.toDatum]

def join (separator : String) (passages : List Passage) : Passage :=
  (ofText separator).intercalate passages

end Passage

/-- Writes data in the places of the placeholders from left to right.  There
have to be as many data as placeholders. -/
def fill? : List Char → List Datum → Option Passage
  | [], [] => some []
  | [], _ :: _ => none
  | character :: text, data =>
      if character = '?' then
        match data with
        | [] => none
        | datum :: others => (fill? text others).map (.inr datum :: ·)
      else (fill? text data).map (.inl character :: ·)

/-- The text, with the data for its placeholders, reads as the passage. -/
def Reads (text : String) (data : List Datum) (passage : Passage) : Prop :=
  fill? text.toList data = some passage

/-- The text has no placeholder. -/
def Unmarked (text : String) : Prop :=
  '?' ∉ text.toList

instance (text : String) : Decidable (Unmarked text) :=
  inferInstanceAs (Decidable ('?' ∉ text.toList))

@[simp] theorem unmarked_append {left right : String} :
    Unmarked (left ++ right) ↔ Unmarked left ∧ Unmarked right := by
  simp [Unmarked, not_or]

theorem unmarked_intercalate {separator : String} {texts : List String}
    (separatorUnmarked : Unmarked separator)
    (unmarked : ∀ text ∈ texts, Unmarked text) :
    Unmarked (separator.intercalate texts) := by
  induction texts with
  | nil => simp [Unmarked]
  | cons text texts induction =>
      have textUnmarked := unmarked text (by simp)
      have restUnmarked : ∀ other ∈ texts, Unmarked other := by
        intro other member
        exact unmarked other (by simp [member])
      cases texts with
      | nil => simpa using textUnmarked
      | cons next texts =>
          rw [String.intercalate_cons_cons, unmarked_append, unmarked_append]
          exact ⟨⟨textUnmarked, separatorUnmarked⟩, induction restUnmarked⟩

theorem fill?_of_unmarked {text : List Char} (unmarked : '?' ∉ text) :
    fill? text [] = some (text.map Sum.inl) := by
  induction text with
  | nil => rfl
  | cons character text induction =>
      have different : character ≠ '?' := by
        intro same
        exact unmarked (by simp [same])
      have restUnmarked : '?' ∉ text := by
        intro member
        exact unmarked (by simp [member])
      simp [fill?, different, induction restUnmarked]

theorem fill?_append {text rest : List Char} {data others : List Datum}
    {first second : Passage} (left : fill? text data = some first)
    (right : fill? rest others = some second) :
    fill? (text ++ rest) (data ++ others) = some (first ++ second) := by
  induction text generalizing data first with
  | nil =>
      cases data with
      | nil =>
          cases left
          exact right
      | cons datum data => cases left
  | cons character text induction =>
      by_cases mark : character = '?'
      · cases data with
        | nil => simp [fill?, mark] at left
        | cons datum data =>
            simp only [fill?, mark, if_true, Option.map_eq_some_iff] at left
            obtain ⟨passage, filled, rfl⟩ := left
            simp [fill?, mark, induction filled]
      · simp only [fill?, mark, if_false, Option.map_eq_some_iff] at left
        obtain ⟨passage, filled, rfl⟩ := left
        simp [fill?, mark, induction filled]

theorem count_of_fill? {text : List Char} {data : List Datum}
    {passage : Passage} (filled : fill? text data = some passage) :
    text.count '?' = data.length := by
  induction text generalizing data passage with
  | nil =>
      cases data with
      | nil => rfl
      | cons datum data => cases filled
  | cons character text induction =>
      by_cases mark : character = '?'
      · cases data with
        | nil => simp [fill?, mark] at filled
        | cons datum data =>
            simp only [fill?, mark, if_true, Option.map_eq_some_iff] at filled
            obtain ⟨rest, restFilled, -⟩ := filled
            simp [mark, induction restFilled]
      · simp only [fill?, mark, if_false, Option.map_eq_some_iff] at filled
        obtain ⟨rest, restFilled, -⟩ := filled
        simp [mark, induction restFilled]

namespace Reads

theorem ofText {text : String} (unmarked : Unmarked text) :
    Reads text [] (Passage.ofText text) :=
  fill?_of_unmarked unmarked

theorem mark (value : Value) :
    Reads "?" [value.toDatum] (Passage.operand value) :=
  rfl

theorem append {left right : String} {data others : List Datum}
    {first second : Passage} (leftReads : Reads left data first)
    (rightReads : Reads right others second) :
    Reads (left ++ right) (data ++ others) (first ++ second) := by
  unfold Reads
  rw [String.toList_append]
  exact fill?_append leftReads rightReads

/-- Pieces that read one by one read together. -/
theorem join {α : Type} {separator : String} {items : List α}
    {text : α → String} {data : α → List Datum} {passage : α → Passage}
    (separatorUnmarked : Unmarked separator)
    (reads : ∀ item ∈ items, Reads (text item) (data item) (passage item)) :
    Reads (separator.intercalate (items.map text)) (items.flatMap data)
      (Passage.join separator (items.map passage)) := by
  induction items with
  | nil => exact fill?_of_unmarked (by simp)
  | cons item items induction =>
      have itemReads := reads item (by simp)
      have restReads := induction (by
        intro other member
        exact reads other (by simp [member]))
      cases items with
      | nil => simpa [Passage.join] using itemReads
      | cons next items =>
          have both :=
            (itemReads.append (Reads.ofText separatorUnmarked)).append restReads
          simpa [Passage.join, String.intercalate_cons_cons] using both

end Reads

end TypedSql
