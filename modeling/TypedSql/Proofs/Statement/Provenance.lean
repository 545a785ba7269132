import Mathlib.Data.List.Forall2
import TypedSql.Proofs.Expression.OperandChecks
import TypedSql.Proofs.Statement.Builder
import TypedSql.Proofs.Statement.Passage

/-!
# Where parameters come from

An operand is given to a column long before the statement is built, and in
between it passes through predicates, assignments and clauses that know nothing
of columns.  Each parameter is still the stored form of an operand that its own
column took, or a number of rows.
-/

namespace TypedSql

/-- What a parameter stands for: an operand of a column, or a number of rows. -/
inductive Origin where
  | operand (column : Column) (value : Value)
  | count (number : Int64)

namespace Origin

def datum : Origin → Datum
  | .operand _ value => value.toDatum
  | .count number => .integer number

/-- An operand was taken by its column. -/
def Taken : Origin → Prop
  | .operand column value => column.Takes value
  | .count _ => True

/-- All operands were taken by their columns. -/
def AllTaken (origins : List Origin) : Prop :=
  ∀ origin ∈ origins, origin.Taken

/-- A clause with the data of its origins. -/
def supply (place : Clause × List Origin) : Clause × List Datum :=
  (place.1, place.2.map Origin.datum)

end Origin

/-- The parameters of a query are the stored forms of what they stand for.  The
operands among them were taken by their columns, and have the storage classes
that these fix. -/
structure Query.BoundTo (query : Query) (origins : List Origin) : Prop where
  parameters : query.parameters = origins.map Origin.datum
  taken : ∀ column value, .operand column value ∈ origins →
    column.Takes value ∧ column.Stores value.toDatum

theorem Query.boundTo_of_taken {query : Query} {origins : List Origin}
    (parameters : query.parameters = origins.map Origin.datum)
    (taken : Origin.AllTaken origins) : query.BoundTo origins := by
  constructor
  case parameters => exact parameters
  case taken =>
    intro column value member
    have takes : column.Takes value := taken _ member
    exact ⟨takes, takes.stores⟩

theorem forall_mem_of_forall₂ {α β : Type} {relation : α → β → Prop}
    {property : β → Prop}
    (holds : ∀ first second, relation first second → property second)
    {left : List α} {right : List β}
    (related : List.Forall₂ relation left right) :
    ∀ item ∈ right, property item := by
  induction related with
  | nil => exact List.forall_mem_nil _
  | cons head _ induction =>
      exact List.forall_mem_cons.mpr ⟨holds _ _ head, induction⟩

namespace StatementKind

/-- What the places of a statement hold, in the order of the clauses of its
kind. -/
def inOrder {α : Type} (kind : StatementKind)
    (places : List (Clause × List α)) : List α :=
  kind.clauses.flatMap fun clause =>
    (places.filter (·.1 = clause)).flatMap (·.2)

variable {α β : Type} {kind : StatementKind} {places : List (Clause × List α)}

theorem of_mem_inOrder {item : α} (member : item ∈ kind.inOrder places) :
    ∃ place ∈ places, item ∈ place.2 := by
  obtain ⟨clause, -, inClause⟩ := List.mem_flatMap.mp member
  obtain ⟨place, placed, held⟩ := List.mem_flatMap.mp inClause
  exact ⟨place, List.mem_of_mem_filter placed, held⟩

theorem map_inOrder (change : α → β) :
    (kind.inOrder places).map change =
      kind.inOrder (places.map fun place => (place.1, place.2.map change)) := by
  unfold inOrder
  rw [List.map_flatMap]
  apply List.flatMap_congr
  intro clause _
  rw [List.filter_map, List.flatMap_map, List.map_flatMap]
  rfl

@[simp] theorem inOrder_cons_nil (clause : Clause) :
    kind.inOrder ((clause, []) :: places) = kind.inOrder places := by
  unfold inOrder
  apply List.flatMap_congr
  intro other _
  rw [List.filter_cons]
  split
  · rw [List.flatMap_cons, List.nil_append]
  · rfl

end StatementKind

/-- The clause of a slot with the data that it supplies. -/
def Slot.supply (slot : Slot) : Clause × List Datum :=
  (slot.clause, slot.values.map Value.toDatum)

namespace Slot

theorem flatMap_filling_completed (slots : List Slot) (clause : Clause) :
    (filling (completed slots) clause).flatMap (·.values.map Value.toDatum) =
      ((slots.map supply).filter (·.1 = clause)).flatMap (·.2) := by
  have own : ((slots.map supply).filter (·.1 = clause)).flatMap (·.2) =
      (filling slots clause).flatMap (·.values.map Value.toDatum) := by
    rw [List.filter_map, List.flatMap_map]
    rfl
  rw [own]
  unfold completed
  split
  case isFalse => rfl
  case isTrue =>
    unfold filling
    rw [List.filter_append, List.flatMap_append]
    by_cases limits : Clause.limit = clause <;>
      simp [unlimited, ofText, limits]

end Slot

namespace Statement

/-- The parameters are the data that the slots supply, in the order of the
clauses. -/
theorem parameters_of_render {statement : Statement}
    (accepted : statement.Accepted) {query : Query}
    (rendered : statement.render = .ok query) :
    query.parameters =
      statement.kind.inOrder (statement.slots.map Slot.supply) := by
  obtain ⟨-, isQuery⟩ := orderedSlots_of_render_eq_ok accepted rendered
  rw [isQuery, orderedSlots_eq_blocks accepted]
  unfold querying StatementKind.inOrder
  dsimp only
  rw [List.flatMap_assoc]
  apply List.flatMap_congr
  intro clause _
  exact Slot.flatMap_filling_completed _ clause

section

variable {Call : Type} {statement : Statement}
  {contribution : Call → Except Error Slot}
  {MadeOf : Call → Clause × List Origin → Prop}
  {calls : List Call} {initial places : List (Clause × List Origin)}

theorem supply_of_contributed
    (supplies : ∀ call place slot, MadeOf call place →
      contribution call = .ok slot → slot.supply = Origin.supply place)
    (made : List.Forall₂ MadeOf calls places) {slots : List Slot}
    (contributed : calls.map contribution = slots.map Except.ok) :
    slots.map Slot.supply = places.map Origin.supply := by
  induction made generalizing slots with
  | nil =>
      cases slots with
      | nil => rfl
      | cons slot slots => cases contributed
  | cons first _ induction =>
      cases slots with
      | nil => cases contributed
      | cons slot slots =>
          obtain ⟨own, others⟩ := List.cons.inj contributed
          rw [List.map_cons, List.map_cons, supplies _ _ _ first own,
            induction others]

/-- If a statement begins with the data of some places, and each of its calls
supplies what it is made of, then a query stands for all of it. -/
theorem boundTo_of_render_addAll (accepted : statement.Accepted)
    (supplies : ∀ call place slot, MadeOf call place →
      contribution call = .ok slot → slot.supply = Origin.supply place)
    (taken : ∀ call place, MadeOf call place → Origin.AllTaken place.2)
    (initialSupply : statement.error = none →
      statement.slots.map Slot.supply = initial.map Origin.supply)
    (initialTaken : ∀ place ∈ initial, Origin.AllTaken place.2)
    (made : List.Forall₂ MadeOf calls places) {query : Query}
    (built : (statement.addAll (calls.map contribution)).render = .ok query) :
    query.BoundTo (statement.kind.inOrder (initial ++ places)) := by
  obtain ⟨noError, slots, contributed, whole⟩ :=
    addAll_of_render_eq_ok accepted built
  have placesTaken := forall_mem_of_forall₂ taken made
  apply Query.boundTo_of_taken
  · rw [parameters_of_render (accepted.addAll _) built, whole]
    dsimp only
    rw [List.map_append, initialSupply noError,
      supply_of_contributed supplies made contributed, ← List.map_append,
      StatementKind.map_inOrder]
    rfl
  · intro origin member
    obtain ⟨place, placed, held⟩ := StatementKind.of_mem_inOrder member
    have allTaken := List.forall_mem_append.mpr ⟨initialTaken, placesTaken⟩
    exact allTaken place placed origin held

end

end Statement

/-- How a predicate is made from columns and operands, with the origins of its
operands from left to right. -/
inductive Predicate.MadeOf : Predicate → List Origin → Prop where
  | compare {column : Column} {comparison : Comparison} {operand : Value}
      {predicate : Predicate} :
      column.compare comparison operand = .ok predicate →
      MadeOf predicate [.operand column operand]
  | among {column : Column} {operands : List Value} {predicate : Predicate} :
      column.inList operands = .ok predicate →
      MadeOf predicate (operands.map (.operand column))
  | both {left right : Predicate} {leftOrigins rightOrigins : List Origin} :
      MadeOf left leftOrigins → MadeOf right rightOrigins →
      MadeOf (.both left right) (leftOrigins ++ rightOrigins)
  | either {left right : Predicate} {leftOrigins rightOrigins : List Origin} :
      MadeOf left leftOrigins → MadeOf right rightOrigins →
      MadeOf (.either left right) (leftOrigins ++ rightOrigins)

namespace Predicate.MadeOf

variable {predicate : Predicate} {origins : List Origin}

theorem data_eq (made : predicate.MadeOf origins) :
    predicate.operands.map Value.toDatum = origins.map Origin.datum := by
  induction made with
  | compare compared =>
      obtain ⟨-, rfl⟩ := Column.compare_eq_ok_iff.mp compared
      rfl
  | among listed =>
      obtain ⟨-, -, rfl⟩ := Column.inList_eq_ok_iff.mp listed
      rw [List.map_map]
      rfl
  | both _ _ leftInduction rightInduction
  | either _ _ leftInduction rightInduction =>
      rw [operands, List.map_append, List.map_append, leftInduction,
        rightInduction]

theorem taken (made : predicate.MadeOf origins) : Origin.AllTaken origins := by
  induction made with
  | compare compared =>
      obtain ⟨takes, -⟩ := Column.compare_eq_ok_iff.mp compared
      exact List.forall_mem_singleton.mpr takes
  | among listed =>
      obtain ⟨-, takes, -⟩ := Column.inList_eq_ok_iff.mp listed
      exact List.forall_mem_map.mpr takes
  | both _ _ leftInduction rightInduction
  | either _ _ leftInduction rightInduction =>
      exact List.forall_mem_append.mpr ⟨leftInduction, rightInduction⟩

/-- A condition supplies the data of its predicate. -/
theorem supply_eq (made : predicate.MadeOf origins) {table : String}
    {slot : Slot} (filled : Slot.ofPredicate table predicate = .ok slot) :
    slot.supply = Origin.supply (.filter, origins) := by
  obtain ⟨-, rfl⟩ := Slot.of_ofPredicate_eq_ok filled
  exact congrArg (Prod.mk Clause.filter) made.data_eq

end Predicate.MadeOf

theorem Slot.supply_ofColumns {table ending : String} {clause : Clause}
    {columns : List Column} {term : Column → String} {slot : Slot}
    (filled : Slot.ofColumns table clause columns term ending = .ok slot) :
    slot.supply = Origin.supply (clause, []) := by
  obtain ⟨list, -, rfl⟩ := Slot.of_ofColumns_eq_ok filled
  rfl

/-- How a call on a select is made, with its clause and the origins in it. -/
inductive SelectCall.MadeOf : SelectCall → Clause × List Origin → Prop where
  | filter {predicate : Predicate} {origins : List Origin} :
      predicate.MadeOf origins → MadeOf (.filter predicate) (.filter, origins)
  | orderBy (columns : List Column) (direction : Direction) :
      MadeOf (.orderBy columns direction) (.orderBy, [])
  | limit (count : Int64) : MadeOf (.limit count) (.limit, [.count count])
  | offset (count : Int64) : MadeOf (.offset count) (.offset, [.count count])
  | groupBy (columns : List Column) : MadeOf (.groupBy columns) (.groupBy, [])

/-- How a call on an update is made, with its clause and the origins in it. -/
inductive UpdateCall.MadeOf : UpdateCall → Clause × List Origin → Prop where
  | filter {predicate : Predicate} {origins : List Origin} :
      predicate.MadeOf origins → MadeOf (.filter predicate) (.filter, origins)
  | returning (columns : List Column) :
      MadeOf (.returning columns) (.returning, [])
  | returningAll : MadeOf .returningAll (.returning, [])
  | orderBy (columns : List Column) (direction : Direction) :
      MadeOf (.orderBy columns direction) (.orderBy, [])
  | limit (count : Int64) : MadeOf (.limit count) (.limit, [.count count])
  | offset (count : Int64) : MadeOf (.offset count) (.offset, [.count count])

/-- How a call on a delete is made, with its clause and the origins in it. -/
inductive DeleteCall.MadeOf : DeleteCall → Clause × List Origin → Prop where
  | filter {predicate : Predicate} {origins : List Origin} :
      predicate.MadeOf origins → MadeOf (.filter predicate) (.filter, origins)
  | returning (columns : List Column) :
      MadeOf (.returning columns) (.returning, [])
  | returningAll : MadeOf .returningAll (.returning, [])

section

variable {table : String} {place : Clause × List Origin} {slot : Slot}

theorem SelectCall.MadeOf.supply_eq {call : SelectCall}
    (made : call.MadeOf place) (filled : call.slot table = .ok slot) :
    slot.supply = Origin.supply place := by
  cases made with
  | filter predicate => exact predicate.supply_eq filled
  | orderBy | groupBy => exact Slot.supply_ofColumns filled
  | limit | offset =>
      cases filled
      rfl

theorem SelectCall.MadeOf.taken {call : SelectCall} (made : call.MadeOf place) :
    Origin.AllTaken place.2 := by
  cases made with
  | filter predicate => exact predicate.taken
  | orderBy | groupBy => exact List.forall_mem_nil _
  | limit | offset => exact List.forall_mem_singleton.mpr trivial

theorem UpdateCall.MadeOf.supply_eq {call : UpdateCall}
    (made : call.MadeOf place) (filled : call.slot table = .ok slot) :
    slot.supply = Origin.supply place := by
  cases made with
  | filter predicate => exact predicate.supply_eq filled
  | orderBy | returning => exact Slot.supply_ofColumns filled
  | limit | offset | returningAll =>
      cases filled
      rfl

theorem UpdateCall.MadeOf.taken {call : UpdateCall} (made : call.MadeOf place) :
    Origin.AllTaken place.2 := by
  cases made with
  | filter predicate => exact predicate.taken
  | orderBy | returning | returningAll => exact List.forall_mem_nil _
  | limit | offset => exact List.forall_mem_singleton.mpr trivial

theorem DeleteCall.MadeOf.supply_eq {call : DeleteCall}
    (made : call.MadeOf place) (filled : call.slot table = .ok slot) :
    slot.supply = Origin.supply place := by
  cases made with
  | filter predicate => exact predicate.supply_eq filled
  | returning => exact Slot.supply_ofColumns filled
  | returningAll =>
      cases filled
      rfl

theorem DeleteCall.MadeOf.taken {call : DeleteCall} (made : call.MadeOf place) :
    Origin.AllTaken place.2 := by
  cases made with
  | filter predicate => exact predicate.taken
  | returning | returningAll => exact List.forall_mem_nil _

end

end TypedSql
