import TypedSql.Proofs.Statement.Listing
import TypedSql.Proofs.Text.CommaList

/-!
# Directions of an order

A direction applies to the one term that it follows, and a term that none
follows is ascending.  In an order of several columns only the last term is
followed by a direction, so the others are ascending whatever is asked for.
-/

namespace TypedSql

/-- What does not depend on the elements holds of all but the last, unless there
are no others. -/
theorem forall_mem_dropLast_iff {α : Type} {items : List α} {holds : Prop}
    (nonempty : items ≠ []) :
    (∀ item ∈ items.dropLast, holds) ↔ holds ∨ items.length = 1 := by
  have alone : items.dropLast = [] ↔ items.length = 1 := by
    have filled := List.length_pos_iff.mpr nonempty
    rw [← List.length_eq_zero_iff, List.length_dropLast]
    omega
  rw [← alone]
  cases items.dropLast with
  | nil => simp
  | cons first others =>
      simp only [reduceCtorEq, or_false]
      constructor
      · intro all
        exact all first List.mem_cons_self
      · intro known _ _
        exact known

/-- A term of an order, and the direction that follows it, if one does. -/
structure SortTerm where
  name : String
  keyword? : Option Direction
deriving DecidableEq

namespace SortTerm

/-- The direction that the term is sorted in. -/
def direction (term : SortTerm) : Direction :=
  term.keyword?.getD .ascending

def text (term : SortTerm) : String :=
  term.name ++ Direction.ending term.keyword?

/-- The list consists of the terms. -/
def ReadAs (list : String) (terms : List SortTerm) : Prop :=
  list = ", ".intercalate (terms.map text)

instance (list : String) (terms : List SortTerm) :
    Decidable (ReadAs list terms) :=
  inferInstanceAs (Decidable (_ = _))

theorem toList_ending (direction : Direction) :
    (Direction.ending (some direction)).toList =
      ' ' :: direction.keyword.toList := by
  simp [Direction.ending]

theorem keyword_append_inj {first second : Direction} {rest others : List Char}
    (same : first.keyword.toList ++ rest = second.keyword.toList ++ others) :
    first = second ∧ rest = others := by
  cases first <;> cases second <;>
    simp [Direction.keyword] at same ⊢ <;> exact same

theorem ne_cons_blank {text rest : List Char}
    (ends : CommaList.EndsItem text) : text ≠ ' ' :: rest := by
  rintro rfl
  exact absurd (ends ' ' rfl) (by decide)

theorem detachable_text : CommaList.Detachable name id text := by
  intro first second rest others named ends othersEnd same
  obtain ⟨name, firstKeyword⟩ := first
  obtain ⟨_, secondKeyword⟩ := second
  cases named
  simp only [text, String.toList_append, List.append_assoc,
    List.append_cancel_left_eq] at same
  cases firstKeyword with
  | none =>
      cases secondKeyword with
      | none => exact ⟨rfl, same⟩
      | some second =>
          rw [toList_ending] at same
          exact (ne_cons_blank ends same).elim
  | some first =>
      cases secondKeyword with
      | none =>
          rw [toList_ending] at same
          exact (ne_cons_blank othersEnd same.symm).elim
      | some second =>
          rw [toList_ending, toList_ending] at same
          obtain ⟨rfl, sameRest⟩ := keyword_append_inj (List.cons.inj same).2
          exact ⟨rfl, sameRest⟩

/-- A list is read in one way only, once the names of its terms are known. -/
theorem eq_of_readAs {list : String} {terms others : List SortTerm}
    (named : terms.map name = others.map name) (reading : ReadAs list terms)
    (otherReading : ReadAs list others) : terms = others := by
  have same := CommaList.marks_eq_of_intercalate_eq detachable_text named
    (reading.symm.trans otherReading)
  rwa [List.map_id, List.map_id] at same

/-- Terms of which only the last is followed by a direction. -/
def endingWith (direction : Direction) : List String → List SortTerm
  | [] => []
  | [name] => [{ name := name, keyword? := some direction }]
  | name :: next :: names =>
      { name := name, keyword? := none } :: endingWith direction (next :: names)

theorem map_name_endingWith (direction : Direction) (names : List String) :
    (endingWith direction names).map name = names := by
  induction names using endingWith.induct with
  | case1 => rfl
  | case2 name => rfl
  | case3 name next names induction =>
      rw [endingWith, List.map_cons, induction]

/-- A direction behind a list follows its last term. -/
theorem readAs_endingWith (direction : Direction) {names : List String}
    (nonempty : names ≠ []) :
    ReadAs (", ".intercalate names ++ Direction.ending (some direction))
      (endingWith direction names) := by
  unfold ReadAs
  induction names using endingWith.induct with
  | case1 => exact (nonempty rfl).elim
  | case2 name => rfl
  | case3 name next names induction =>
      have others : (endingWith direction (next :: names)).map text ≠ [] := by
        intro none
        have named := map_name_endingWith direction (next :: names)
        rw [List.map_eq_nil_iff.mp none] at named
        cases named
      have bare : text { name := name, keyword? := none } = name :=
        String.append_empty
      rw [endingWith, List.map_cons, String.intercalate_cons_of_ne_nil others,
        ← induction (List.cons_ne_nil next names), bare,
        String.intercalate_cons_cons, String.append_assoc]

theorem map_direction_endingWith (direction : Direction) {names : List String}
    (nonempty : names ≠ []) :
    (endingWith direction names).map SortTerm.direction =
      names.dropLast.map (fun _ => .ascending) ++ [direction] := by
  induction names using endingWith.induct with
  | case1 => exact (nonempty rfl).elim
  | case2 name => rfl
  | case3 name next names induction =>
      rw [endingWith, List.map_cons, induction (List.cons_ne_nil next names)]
      rfl

/-- All terms are sorted as asked for only if that is ascending, or if there is
no other term. -/
theorem forall_direction_endingWith_iff {direction : Direction}
    {names : List String} (nonempty : names ≠ []) :
    (∀ term ∈ endingWith direction names, term.direction = direction) ↔
      direction = .ascending ∨ names.length = 1 := by
  rw [← List.forall_mem_map (f := SortTerm.direction)
    (P := (· = direction)), map_direction_endingWith direction nonempty,
    List.forall_mem_append, List.forall_mem_map, List.forall_mem_singleton,
    forall_mem_dropLast_iff nonempty, eq_comm]
  exact and_iff_left rfl

end SortTerm

section

variable {listing : Listing} {direction : Direction}

theorem SelectCall.clause_of_direction {call : SelectCall}
    (lists : call.listing? = some listing)
    (directed : listing.direction? = some direction) :
    listing.clause = .orderBy := by
  cases call with
  | filter | limit | offset => cases lists
  | orderBy columns direction =>
      cases lists
      rfl
  | groupBy columns =>
      cases lists
      cases directed

theorem UpdateCall.clause_of_direction {call : UpdateCall}
    (lists : call.listing? = some listing)
    (directed : listing.direction? = some direction) :
    listing.clause = .orderBy := by
  cases call with
  | filter | limit | offset | returningAll => cases lists
  | orderBy columns direction =>
      cases lists
      rfl
  | returning columns =>
      cases lists
      cases directed

/-- Only orders have a direction. -/
theorem Draft.clause_of_direction {draft : Draft}
    (member : listing ∈ draft.listings)
    (directed : listing.direction? = some direction) :
    listing.clause = .orderBy := by
  cases draft with
  | select selection calls =>
      rcases List.mem_append.mp member with initial | added
      · have lists := Option.mem_toList.mp initial
        cases selection <;> cases lists
        cases directed
      · obtain ⟨call, -, lists⟩ := List.mem_filterMap.mp added
        exact call.clause_of_direction lists directed
  | update assignments calls =>
      obtain ⟨call, -, lists⟩ := List.mem_filterMap.mp member
      exact call.clause_of_direction lists directed
  | delete selection calls =>
      obtain ⟨call, -, lists⟩ := List.mem_filterMap.mp member
      cases call <;> cases lists
      cases directed

end

namespace Draft

/-- An order that is built lists its columns, and its list has one reading.  In
it the last column is sorted as asked for, and all others are ascending. -/
theorem order_read_iff (draft : Draft) (query : Query)
    (built : draft.build = .ok query) :
    query.ConsistsOf draft.kind draft.statement.written ∧
      ∀ listing ∈ draft.listings, ∀ direction,
        listing.direction? = some direction →
        let list := listing.list (draft.kind.term .orderBy)
        (.orderBy, "ORDER BY " ++ list) ∈ draft.statement.written ∧
          ∃ terms : List SortTerm,
            terms.map SortTerm.name =
              listing.columns.map (draft.kind.term .orderBy) ∧
            (∀ others : List SortTerm,
              others.map SortTerm.name = terms.map SortTerm.name →
                (SortTerm.ReadAs list others ↔ others = terms)) ∧
            terms.map SortTerm.direction =
              listing.columns.dropLast.map (fun _ => .ascending) ++
                [direction] ∧
            ((∀ term ∈ terms, term.direction = direction) ↔
              direction = .ascending ∨ listing.columns.length = 1) := by
  refine ⟨consistsOf built, ?_⟩
  intro listing member direction directed list
  obtain ⟨nonempty, written⟩ := listing_written built member
  let names := listing.columns.map (draft.kind.term .orderBy)
  have namesNonempty : names ≠ [] := by
    intro none
    exact nonempty (List.map_eq_nil_iff.mp none)
  have reading :
      SortTerm.ReadAs list (SortTerm.endingWith direction names) := by
    have ended := SortTerm.readAs_endingWith direction namesNonempty
    rwa [← directed] at ended
  refine ⟨?_, SortTerm.endingWith direction names,
    SortTerm.map_name_endingWith direction names, ?_, ?_, ?_⟩
  · rw [entry, Listing.entry, clause_of_direction member directed] at written
    exact written
  · intro others named
    constructor
    · intro otherReading
      exact SortTerm.eq_of_readAs named otherReading reading
    · rintro rfl
      exact reading
  · rw [SortTerm.map_direction_endingWith direction namesNonempty,
      ← List.map_dropLast, List.map_map]
    rfl
  · rw [SortTerm.forall_direction_endingWith_iff namesNonempty,
      List.length_map]

/-- Two columns in ascending order. -/
theorem order_read_people :
    let column (name : String) (kind : Kind) : Column :=
      { table := "people"
        name := name
        kind := kind
        nullable := false
        aggregation := .plain }
    let raise : Assignment :=
      { table := "people"
        column := "age"
        operation := .add
        operand := .integer 1 }
    let draft := Draft.update [raise]
      [.orderBy [column "age" .integer, column "name" .text] .ascending]
    let query : Query :=
      { sql := "UPDATE people SET age = age + ? ORDER BY age, name ASC"
        parameters := [.integer 1] }
    draft.build = .ok query ∧
      query.ConsistsOf .update draft.statement.written ∧
      ∃ terms : List SortTerm,
        terms.map SortTerm.name = ["age", "name"] ∧
        SortTerm.ReadAs "age, name ASC" terms ∧
        ∀ term ∈ terms, term.direction = .ascending := by
  intro column raise draft query
  have built : draft.build = .ok query := eq_ok_of_toOption (by decide)
  obtain ⟨consists, orders⟩ := order_read_iff draft query built
  obtain ⟨-, terms, named, reading, -, ascends⟩ :=
    orders _ List.mem_cons_self .ascending rfl
  refine ⟨built, consists, terms, named, ?_, ascends.mpr (.inl rfl)⟩
  exact (reading terms rfl).mpr rfl

/-- Of two columns in descending order, the first is ascending. -/
theorem descending_order_people :
    let column (name : String) (kind : Kind) : Column :=
      { table := "people"
        name := name
        kind := kind
        nullable := false
        aggregation := .plain }
    let columns := [column "age" .integer, column "name" .text]
    let draft := Draft.select (.columns columns) [.orderBy columns .descending]
    draft.build =
        .ok
          { sql := "SELECT age, name FROM people ORDER BY age, name DESC"
            parameters := [] } ∧
      ∀ terms : List SortTerm,
        terms.map SortTerm.name = columns.map Column.name →
        SortTerm.ReadAs "age, name DESC" terms →
          ¬∀ term ∈ terms, term.direction = .descending := by
  intro column columns draft
  refine ⟨eq_ok_of_toOption ?_, ?_⟩
  · decide
  · intro terms named reading
    have asWritten :
        SortTerm.ReadAs "age, name DESC"
          (SortTerm.endingWith .descending ["age", "name"]) := by decide
    rw [SortTerm.eq_of_readAs (named.trans rfl) reading asWritten]
    decide

end Draft

end TypedSql
