import TypedSql.Proofs.Schema.QuotedReading

/-!
# Lists with commas

Items are told apart in a list if each can be cut off the text that begins with
it.  This may take the names of the items, since a name may contain a comma as
well.
-/

namespace TypedSql.CommaList

variable {α ν μ : Type}

/-- Behind an item there is nothing more, or a comma. -/
def EndsItem (rest : List Char) : Prop :=
  ∀ first ∈ rest.head?, first = ','

/-- Once its name is known, an item can be cut off a text that begins with it,
and its mark shows. -/
def Detachable (name : α → ν) (mark : α → μ) (text : α → String) : Prop :=
  ∀ {first second : α} {rest others : List Char},
    name first = name second → EndsItem rest → EndsItem others →
      (text first).toList ++ rest = (text second).toList ++ others →
        mark first = mark second ∧ rest = others

/-- A list as it goes on behind its first item. -/
def textBehind (text : α → String) (items : List α) : List Char :=
  items.flatMap fun item => ", ".toList ++ (text item).toList

theorem endsItem_textBehind (text : α → String) (items : List α) :
    EndsItem (textBehind text items) := by
  cases items with
  | nil => exact nofun
  | cons item items =>
      intro first begins
      exact (Option.some.inj begins).symm

theorem textBehind_cons (text : α → String) (item : α) (items : List α) :
    textBehind text (item :: items) =
      ", ".toList ++ (", ".intercalate ((item :: items).map text)).toList := by
  rw [List.map_cons, toList_intercalate_cons, List.flatMap_map, textBehind,
    List.flatMap_cons, List.append_assoc]

theorem marks_eq_of_textBehind_eq {name : α → ν} {mark : α → μ}
    {text : α → String} (detachable : Detachable name mark text)
    {firsts seconds : List α} (named : firsts.map name = seconds.map name)
    (same : textBehind text firsts = textBehind text seconds) :
    firsts.map mark = seconds.map mark := by
  induction firsts generalizing seconds with
  | nil =>
      cases seconds with
      | nil => rfl
      | cons other others => cases named
  | cons item items induction =>
      cases seconds with
      | nil => cases named
      | cons other others =>
          obtain ⟨ownName, otherNames⟩ := List.cons.inj named
          unfold textBehind at same
          rw [List.flatMap_cons, List.flatMap_cons, List.append_assoc,
            List.append_assoc] at same
          obtain ⟨own, rest⟩ :=
            detachable ownName (endsItem_textBehind text items)
              (endsItem_textBehind text others) (List.append_cancel_left same)
          rw [List.map_cons, List.map_cons, own, induction otherNames rest]

/-- Lists of items with the same names are written alike only if all marks are
the same. -/
theorem marks_eq_of_intercalate_eq {name : α → ν} {mark : α → μ}
    {text : α → String} (detachable : Detachable name mark text)
    {firsts seconds : List α} (named : firsts.map name = seconds.map name)
    (same : ", ".intercalate (firsts.map text) =
      ", ".intercalate (seconds.map text)) :
    firsts.map mark = seconds.map mark := by
  cases firsts with
  | nil =>
      cases seconds with
      | nil => rfl
      | cons other others => cases named
  | cons item items =>
      cases seconds with
      | nil => cases named
      | cons other others =>
          apply marks_eq_of_textBehind_eq detachable named
          rw [textBehind_cons, textBehind_cons, same]

end TypedSql.CommaList
