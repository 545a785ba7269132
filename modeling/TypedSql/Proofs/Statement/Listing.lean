import Mathlib.Data.List.Nodup
import TypedSql.Proofs.Statement.WholeRows

/-!
# Listed columns

Selections, orders, groups and returned rows list columns.  Whichever statement
is put together, and in whatever order, each list that it is asked for is the
text of its own clause once the statement is built.
-/

namespace TypedSql

/-- A statement that is put together: what it begins with and the calls made on
it. -/
inductive Draft where
  | select (selection : Selection) (calls : List SelectCall)
  | update (assignments : List Assignment) (calls : List UpdateCall)
  | delete (selection : Selection) (calls : List DeleteCall)

namespace Draft

def kind : Draft → StatementKind
  | .select _ _ => .select
  | .update _ _ => .update
  | .delete _ _ => .delete

def statement : Draft → Statement
  | .select selection calls =>
      ((Select.ofSelection selection).chain calls).statement
  | .update assignments calls =>
      ((Update.ofAssignments assignments).chain calls).statement
  | .delete selection calls =>
      ((Delete.ofSelection selection).chain calls).statement

def build : Draft → Except Error Query
  | .select selection calls =>
      ((Select.ofSelection selection).chain calls).build
  | .update assignments calls =>
      ((Update.ofAssignments assignments).chain calls).build
  | .delete selection calls =>
      ((Delete.ofSelection selection).chain calls).build

end Draft

/-- What a direction puts behind the columns of an order. -/
def Direction.ending : Option Direction → String
  | some direction => " " ++ direction.keyword
  | none => ""

/-- Columns that a clause is asked to list.  Only an order has a direction. -/
structure Listing where
  clause : Clause
  columns : List Column
  direction? : Option Direction

namespace Listing

/-- The list, with each column written as a term. -/
def list (listing : Listing) (term : Column → String) : String :=
  ", ".intercalate (listing.columns.map term) ++
    Direction.ending listing.direction?

/-- The clause with its list. -/
def entry (listing : Listing) (term : Column → String) : Clause × String :=
  (listing.clause, listing.clause.keyword ++ " " ++ listing.list term)

end Listing

def Selection.listing? : Selection → Option Listing
  | .columns listed =>
      some { clause := .select, columns := listed, direction? := none }
  | _ => none

def SelectCall.listing? : SelectCall → Option Listing
  | .orderBy columns direction =>
      some
        { clause := .orderBy, columns := columns, direction? := some direction }
  | .groupBy columns =>
      some { clause := .groupBy, columns := columns, direction? := none }
  | _ => none

def UpdateCall.listing? : UpdateCall → Option Listing
  | .orderBy columns direction =>
      some
        { clause := .orderBy, columns := columns, direction? := some direction }
  | .returning columns =>
      some { clause := .returning, columns := columns, direction? := none }
  | _ => none

def DeleteCall.listing? : DeleteCall → Option Listing
  | .returning columns =>
      some { clause := .returning, columns := columns, direction? := none }
  | _ => none

/-- All lists of columns that a statement is asked for. -/
def Draft.listings : Draft → List Listing
  | .select selection calls =>
      selection.listing?.toList ++ calls.filterMap SelectCall.listing?
  | .update _ calls => calls.filterMap UpdateCall.listing?
  | .delete _ calls => calls.filterMap DeleteCall.listing?

/-- Only what a select returns, and what it orders by, is written with
aggregates. -/
def StatementKind.KeepsAggregates (kind : StatementKind) (clause : Clause) :
    Prop :=
  kind = .select ∧ (clause = .select ∨ clause = .orderBy)

instance (kind : StatementKind) (clause : Clause) :
    Decidable (kind.KeepsAggregates clause) :=
  inferInstanceAs (Decidable (_ ∧ _))

/-- How a column is written in a clause. -/
def StatementKind.term (kind : StatementKind) (clause : Clause) :
    Column → String :=
  if kind.KeepsAggregates clause then Column.render else Column.name

/-- How a statement writes a list that it is asked for. -/
def Draft.entry (draft : Draft) (listing : Listing) : Clause × String :=
  listing.entry (draft.kind.term listing.clause)

/-- A clause has no other text than the one it is written with. -/
theorem Query.ConsistsOf.mem_iff {query : Query} {kind : StatementKind}
    {clauses : List (Clause × String)}
    (consists : query.ConsistsOf kind clauses) {clause : Clause}
    {text other : String} (written : (clause, text) ∈ clauses) :
    (clause, other) ∈ clauses ↔ (clause, other) = (clause, text) := by
  constructor
  · intro member
    have distinct : (clauses.map (·.1)).Nodup :=
      kind.clauses_nodup.sublist consists.ordered
    exact List.inj_on_of_nodup_map distinct member written rfl
  · intro same
    rw [same]
    exact written

/-- The slot that a list fills. -/
def Listing.slot (listing : Listing) (kind : StatementKind)
    (table : String) : Except Error Slot :=
  Slot.ofColumns table listing.clause listing.columns
    (kind.term listing.clause) (Direction.ending listing.direction?)

/-- A list that fills a slot is not empty, and is written as it stands. -/
theorem Listing.of_slot_eq_ok {listing : Listing} {kind : StatementKind}
    {table : String} {slot : Slot}
    (filled : listing.slot kind table = .ok slot) :
    listing.columns ≠ [] ∧
      slot.entry = listing.entry (kind.term listing.clause) := by
  obtain ⟨list, written, rfl⟩ := Slot.of_ofColumns_eq_ok filled
  obtain ⟨nonempty, -, -, rfl⟩ := ColumnList.of_write_eq_ok written
  rw [String.append_assoc]
  exact ⟨nonempty, rfl⟩

theorem SelectCall.slot_of_listing (table : String) {call : SelectCall}
    {listing : Listing} (lists : call.listing? = some listing) :
    call.slot table = listing.slot .select table := by
  cases call with
  | filter | limit | offset => cases lists
  | orderBy | groupBy =>
      cases lists
      rfl

theorem UpdateCall.slot_of_listing (table : String) {call : UpdateCall}
    {listing : Listing} (lists : call.listing? = some listing) :
    call.slot table = listing.slot .update table := by
  cases call with
  | filter | limit | offset | returningAll => cases lists
  | orderBy | returning =>
      cases lists
      rfl

theorem DeleteCall.slot_of_listing (table : String) {call : DeleteCall}
    {listing : Listing} (lists : call.listing? = some listing) :
    call.slot table = listing.slot .delete table := by
  cases call with
  | filter | returningAll => cases lists
  | returning =>
      cases lists
      rfl

/-- The clause that a call adds. -/
def UpdateCall.clause : UpdateCall → Clause
  | .filter _ => .filter
  | .returning _ => .returning
  | .returningAll => .returning
  | .orderBy _ _ => .orderBy
  | .limit _ => .limit
  | .offset _ => .offset

theorem UpdateCall.fills {table : String} {call : UpdateCall} {slot : Slot}
    (filled : call.slot table = .ok slot) : slot.Fills call.clause := by
  cases call with
  | filter predicate => exact Slot.fills_ofPredicate filled
  | returning columns => exact Slot.fills_ofColumns filled
  | returningAll =>
      cases filled
      exact Slot.fills_ofText .returning "*"
  | orderBy columns direction => exact Slot.fills_ofColumns filled
  | limit count =>
      cases filled
      exact ⟨rfl, "?", rfl⟩
  | offset count =>
      cases filled
      exact ⟨rfl, "?", rfl⟩

namespace Statement

/-- Every slot is written. -/
theorem entry_mem_written {statement : Statement}
    (accepted : statement.Accepted) {slot : Slot}
    (member : slot ∈ statement.slots) : slot.entry ∈ statement.written := by
  have kept : slot ∈ Slot.completed statement.slots := by
    unfold Slot.completed
    split
    · exact List.mem_append_left _ member
    · exact member
  rw [written, orderedSlots_eq_blocks accepted]
  apply List.mem_map_of_mem
  apply List.mem_flatMap.mpr
  exact ⟨slot.clause, accepted slot member, by simp [Slot.filling, kept]⟩

section

variable {statement : Statement} {Call : Type}
  {contribution : Call → Except Error Slot} {calls : List Call}
  {query : Query}

/-- A statement that is built keeps what it began with. -/
theorem initial_mem_written (accepted : statement.Accepted)
    (built : (statement.addAll (calls.map contribution)).render = .ok query)
    {slot : Slot} (member : slot ∈ statement.slots) :
    slot.entry ∈ (statement.addAll (calls.map contribution)).written := by
  obtain ⟨-, slots, -, whole⟩ := addAll_of_render_eq_ok accepted built
  apply entry_mem_written (accepted.addAll _)
  rw [whole]
  exact List.mem_append_left _ member

/-- What every call adds is part of a statement that is built. -/
theorem added_mem_written (accepted : statement.Accepted)
    (built : (statement.addAll (calls.map contribution)).render = .ok query)
    {call : Call} (called : call ∈ calls) :
    ∃ slot, contribution call = .ok slot ∧
      slot.entry ∈ (statement.addAll (calls.map contribution)).written := by
  obtain ⟨-, slots, contributed, whole⟩ :=
    addAll_of_render_eq_ok accepted built
  have member : contribution call ∈ slots.map Except.ok := by
    rw [← contributed]
    exact List.mem_map_of_mem called
  obtain ⟨slot, slotMember, filled⟩ := List.mem_map.mp member
  refine ⟨slot, filled.symm, ?_⟩
  apply entry_mem_written (accepted.addAll _)
  rw [whole]
  exact List.mem_append_right _ slotMember

/-- The lists that calls ask for are written. -/
theorem listed_mem_written (accepted : statement.Accepted)
    (built : (statement.addAll (calls.map contribution)).render = .ok query)
    {listing? : Call → Option Listing} {kind : StatementKind} {table : String}
    (slots : ∀ {call listing}, listing? call = some listing →
      contribution call = listing.slot kind table)
    {listing : Listing} (member : listing ∈ calls.filterMap listing?) :
    listing.columns ≠ [] ∧
      listing.entry (kind.term listing.clause) ∈
        (statement.addAll (calls.map contribution)).written := by
  obtain ⟨call, called, lists⟩ := List.mem_filterMap.mp member
  obtain ⟨slot, filled, written⟩ := added_mem_written accepted built called
  rw [slots lists] at filled
  obtain ⟨nonempty, isEntry⟩ := Listing.of_slot_eq_ok filled
  rw [← isEntry]
  exact ⟨nonempty, written⟩

end

end Statement

namespace Select

theorem projection_fills (columns : List Column) :
    ∀ slot ∈ (projection columns).slots, ∃ clause, slot.Fills clause := by
  cases columns with
  | nil => exact nofun
  | cons first others =>
      cases written :
          ColumnList.write first.table (first :: others) Column.render with
      | error error =>
          rw [projection_of_error written]
          exact nofun
      | ok list =>
          rw [projection_of_ok written]
          intro slot member
          rcases List.mem_pair.mp member with rfl | rfl
          · exact ⟨_, Slot.fills_ofText .select list⟩
          · exact ⟨_, Slot.fills_ofText .source first.table⟩

theorem initial_fills (selection : Selection) :
    ∀ slot ∈ (ofSelection selection).statement.slots,
      ∃ clause, slot.Fills clause := by
  cases selection with
  | records entity => exact wholeTable_fills entity.tableName
  | rows schema => exact wholeTable_fills schema.tableName
  | columns columns => exact projection_fills columns

/-- A select of columns that goes without an error begins with their list. -/
theorem initial_lists {selection : Selection} {listing : Listing}
    (lists : selection.listing? = some listing)
    (noError : (ofSelection selection).statement.error = none) :
    ∃ slot ∈ (ofSelection selection).statement.slots, ∃ table,
      listing.slot .select table = .ok slot := by
  cases selection with
  | records | rows => cases lists
  | columns columns =>
      cases lists
      cases columns with
      | nil => cases noError
      | cons first others =>
          cases written :
              ColumnList.write first.table (first :: others)
                Column.render with
          | error error =>
              simp [ofSelection, projection_of_error written] at noError
          | ok list =>
              have filled :
                  Slot.ofColumns first.table .select (first :: others)
                      Column.render "" =
                    .ok (Slot.ofText .select ("SELECT " ++ list ++ "")) := by
                rw [Slot.ofColumns, written]
                rfl
              rw [String.append_empty] at filled
              refine ⟨_, ?_, first.table, filled⟩
              simp [ofSelection, projection_of_ok written]

end Select

namespace Update

theorem assigning_fills (assignments : List Assignment) :
    ∀ slot ∈ (assigning assignments).slots, ∃ clause, slot.Fills clause := by
  cases assignments with
  | nil => exact nofun
  | cons first others =>
      cases found : others.find? (·.table ≠ first.table) with
      | some other =>
          rw [assigning_of_other found]
          exact nofun
      | none =>
          rw [assigning_of_single found]
          intro slot member
          rcases List.mem_pair.mp member with rfl | rfl
          · exact ⟨_, Slot.fills_ofText .update first.table⟩
          · exact ⟨.assignments, rfl, _, rfl⟩

end Update

namespace Delete

theorem initial_fills (selection : Selection) :
    ∀ slot ∈ (ofSelection selection).statement.slots,
      ∃ clause, slot.Fills clause := by
  cases selection with
  | records entity => exact wholeTable_fills entity.tableName
  | rows schema => exact wholeTable_fills schema.tableName
  | columns columns => exact nofun

end Delete

namespace Draft

variable {draft : Draft} {query : Query}

/-- A statement that is built consists of its clauses. -/
theorem consistsOf (built : draft.build = .ok query) :
    query.ConsistsOf draft.kind draft.statement.written := by
  cases draft with
  | select selection calls =>
      rw [build, Select.build, Select.statement_chain] at built
      rw [statement, Select.statement_chain, kind,
        ← Select.kind_ofSelection selection]
      exact Statement.consistsOf_written (Select.accepted_ofSelection selection)
        (Select.initial_fills selection) SelectCall.fills built
  | update assignments calls =>
      rw [build, Update.build, Update.statement_chain] at built
      rw [statement, Update.statement_chain, kind,
        ← Update.kind_ofAssignments assignments]
      exact Statement.consistsOf_written
        (Update.accepted_ofAssignments assignments)
        (Update.assigning_fills assignments) UpdateCall.fills built
  | delete selection calls =>
      rw [build, Delete.build, Delete.statement_chain] at built
      rw [statement, Delete.statement_chain, kind,
        ← Delete.kind_ofSelection selection]
      exact Statement.consistsOf_written (Delete.accepted_ofSelection selection)
        (Delete.initial_fills selection) DeleteCall.fills built

/-- No list that a statement is asked for gets lost when it is built, and none
is empty. -/
theorem listing_written (built : draft.build = .ok query) {listing : Listing}
    (member : listing ∈ draft.listings) :
    listing.columns ≠ [] ∧
      draft.entry listing ∈ draft.statement.written := by
  cases draft with
  | select selection calls =>
      rw [build, Select.build, Select.statement_chain] at built
      rw [statement, Select.statement_chain]
      have accepted := Select.accepted_ofSelection selection
      rcases List.mem_append.mp member with initial | added
      · obtain ⟨noError, -⟩ :=
          Statement.addAll_of_render_eq_ok accepted built
        obtain ⟨slot, slotMember, table, filled⟩ :=
          Select.initial_lists (Option.mem_toList.mp initial) noError
        obtain ⟨nonempty, isEntry⟩ := Listing.of_slot_eq_ok filled
        rw [entry, kind, ← isEntry]
        exact ⟨nonempty,
          Statement.initial_mem_written accepted built slotMember⟩
      · exact Statement.listed_mem_written accepted built
          (SelectCall.slot_of_listing _) added
  | update assignments calls =>
      rw [build, Update.build, Update.statement_chain] at built
      rw [statement, Update.statement_chain]
      exact Statement.listed_mem_written
        (Update.accepted_ofAssignments assignments) built
        (UpdateCall.slot_of_listing _) member
  | delete selection calls =>
      rw [build, Delete.build, Delete.statement_chain] at built
      rw [statement, Delete.statement_chain]
      exact Statement.listed_mem_written
        (Delete.accepted_ofSelection selection) built
        (DeleteCall.slot_of_listing _) member

end Draft

end TypedSql
