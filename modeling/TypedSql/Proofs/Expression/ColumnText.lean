import TypedSql.Expression.ColumnList
import TypedSql.Proofs.Text.CommaList

/-!
# Texts of columns

A column with an aggregate is written differently from the bare column and from
the column with any other aggregate, whatever its name is.  In a list, too, the
text settles the aggregates once the names are known.
-/

namespace TypedSql

/-- What begins with a mark and then repeats a name is no continuation of the
name, unless by something that the mark may begin with. -/
theorem append_ne_of_head?_not_mem {α : Type} {mark name rest others : List α}
    (filled : mark ≠ []) (apart : ∀ first ∈ rest.head?, first ∉ mark) :
    name ++ rest ≠ mark ++ (name ++ others) := by
  -- The name would have to begin with one mark after the other.
  induction length : name.length using Nat.strongRecOn generalizing name with
  | ind size induction =>
      intro same
      rcases List.append_eq_append_iff.mp same with
        ⟨part, isMark, isRest⟩ | ⟨shorter, isName, isRest⟩
      · cases turned : part ++ name with
        | nil =>
            obtain ⟨rfl, rfl⟩ := List.append_eq_nil_iff.mp turned
            exact filled isMark
        | cons first tail =>
            rw [← List.append_assoc, turned] at isRest
            have begins : first ∈ part ++ name := by
              rw [turned]
              exact List.mem_cons_self
            apply apart first
            · rw [isRest]
              rfl
            · rw [isMark]
              exact List.mem_append.mpr (List.mem_append.mp begins).symm
      · have shrinks : shorter.length < size := by
          have filledLength := List.length_pos_iff.mpr filled
          rw [← length, isName, List.length_append]
          omega
        apply induction shorter.length shrinks rfl
        rw [← isRest, isName, List.append_assoc]

namespace Aggregate

/-- What an aggregate puts in front of a name. -/
def opening (aggregate : Aggregate) : List Char :=
  (aggregate.keyword ++ "(").toList

theorem opening_append_inj {first second : Aggregate} {rest others : List Char}
    (same : first.opening ++ rest = second.opening ++ others) :
    first = second ∧ rest = others := by
  cases first <;> cases second <;>
    simp [opening, keyword] at same ⊢ <;> exact same

end Aggregate

namespace Column

theorem toList_render_of_aggregate {column : Column} {aggregate : Aggregate}
    (attached : column.aggregate? = some aggregate) :
    column.render.toList =
      aggregate.opening ++ (column.name.toList ++ [')']) := by
  simp [render, attached, Aggregate.opening]

theorem render_of_plain {column : Column}
    (plain : column.aggregate? = none) : column.render = column.name := by
  simp [render, plain]

theorem name_append_ne_opening {aggregate : Aggregate}
    {name rest others : List Char} (ends : CommaList.EndsItem rest) :
    name ++ rest ≠ aggregate.opening ++ (name ++ others) := by
  apply append_ne_of_head?_not_mem
  · cases aggregate <;> decide
  · intro first begins
    rw [ends first begins]
    cases aggregate <;> decide

/-- A column can be cut off a list that begins with it, and its aggregate
shows. -/
theorem detachable_render :
    CommaList.Detachable name aggregate? render := by
  intro first second rest others named ends othersEnd same
  cases attached : first.aggregate? with
  | none =>
      rw [render_of_plain attached, named] at same
      cases attachedSecond : second.aggregate? with
      | none =>
          rw [render_of_plain attachedSecond] at same
          exact ⟨rfl, List.append_cancel_left same⟩
      | some aggregate =>
          rw [toList_render_of_aggregate attachedSecond, List.append_assoc,
            List.append_assoc] at same
          exact (name_append_ne_opening ends same).elim
  | some aggregate =>
      rw [toList_render_of_aggregate attached, named] at same
      cases attachedSecond : second.aggregate? with
      | none =>
          rw [render_of_plain attachedSecond, List.append_assoc,
            List.append_assoc] at same
          exact (name_append_ne_opening othersEnd same.symm).elim
      | some other =>
          rw [toList_render_of_aggregate attachedSecond] at same
          simp only [List.append_assoc] at same
          obtain ⟨rfl, sameName⟩ := Aggregate.opening_append_inj same
          have sameEnd := List.append_cancel_left sameName
          exact ⟨rfl, List.append_cancel_left sameEnd⟩

/-- A name with an aggregate in front, if there is one. -/
def applied (aggregate? : Option Aggregate) (name : String) : String :=
  match aggregate? with
  | some aggregate => aggregate.keyword ++ "(" ++ name ++ ")"
  | none => name

theorem map_render_eq_zipWith (columns : List Column) :
    columns.map render =
      List.zipWith applied (columns.map aggregate?) (columns.map name) := by
  rw [List.zipWith_map, List.zipWith_self]
  rfl

/-- Lists of columns with the same names are written alike if and only if all
aggregates are the same. -/
theorem intercalate_render_eq_iff {first second : List Column}
    (named : first.map name = second.map name) :
    ", ".intercalate (first.map render) =
        ", ".intercalate (second.map render) ↔
      first.map aggregate? = second.map aggregate? := by
  constructor
  · exact CommaList.marks_eq_of_intercalate_eq detachable_render named
  · intro same
    rw [map_render_eq_zipWith, map_render_eq_zipWith, same, named]

end Column

end TypedSql
