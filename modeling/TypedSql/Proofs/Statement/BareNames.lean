import TypedSql.Proofs.Statement.Alignment
import TypedSql.Proofs.Statement.Wording

/-!
# Statements with bare names

Selects, updates and deletes write names as bare words.  Their texts are
well-spaced wordings all the same, so a bare word is read as a name unless the
storage engine reserves it.
-/

namespace TypedSql

namespace Wording

/-- The clauses that a walk takes, with single spaces between them. -/
def ofClauses (kind : StatementKind) (places : List (Clause × Wording)) :
    Wording :=
  join " "
    ((kind.arrange Prod.fst (.limit, [.fixed "LIMIT -1"]) places).map
      Prod.snd)

theorem spaced_ofClauses (kind : StatementKind)
    {places : List (Clause × Wording)}
    (spaced : ∀ place ∈ places, place.2.Spaced) :
    (ofClauses kind places).Spaced := by
  apply Spaced.join (by decide)
  intro wording member
  obtain ⟨place, taken, rfl⟩ := List.mem_map.mp member
  rcases StatementKind.mem_arrange taken with given | isUnlimited
  · exact spaced place given
  · rw [isUnlimited]
    exact .fixed (by decide)

theorem of_mem_names_ofClauses {kind : StatementKind}
    {places : List (Clause × Wording)} {name : String}
    (member : name ∈ (ofClauses kind places).names) :
    ∃ place ∈ places, name ∈ place.2.names := by
  rw [ofClauses, names_join] at member
  obtain ⟨wording, wordingMember, named⟩ := List.mem_flatMap.mp member
  obtain ⟨place, taken, rfl⟩ := List.mem_map.mp wordingMember
  rcases StatementKind.mem_arrange taken with given | isUnlimited
  · exact ⟨place, given, named⟩
  · rw [isUnlimited] at named
    cases named

end Wording

/-- Names are bare words, which are read as names unless one is reserved. -/
structure BareNames (reserved : List String) (sql : String)
    (wording : Wording) : Prop where
  text_eq : sql = wording.spell id
  readsNames_iff : ReadsNames reserved sql wording ↔
    ∀ name ∈ wording.names, Lexer.isReserved reserved name = false

/-- A builder writes the clauses that it begins with, and those that calls add,
as wordings that mention no other names than it was given. -/
structure WordingLaw {Call : Type} (statement : Statement)
    (contribution : Call → Except Error Slot)
    (initial : List (Clause × Wording)) (wording : Call → Clause × Wording)
    (initialNames : List String) (names : Call → List String) : Prop where
  initial_eq : statement.error = none →
    statement.slots.map Slot.entry = initial.map Wording.bare
  initial_spaced : ∀ place ∈ initial, place.2.Spaced
  initial_names : ∀ place ∈ initial, ∀ name ∈ place.2.names,
    name ∈ initialNames
  entry_eq : ∀ {call slot}, contribution call = .ok slot →
    slot.entry = Wording.bare (wording call)
  spaced : ∀ call, (wording call).2.Spaced
  names_eq : ∀ call, (wording call).2.names = names call

section

variable {Call : Type} {statement : Statement}
  {contribution : Call → Except Error Slot}
  {initial : List (Clause × Wording)} {wording : Call → Clause × Wording}
  {initialNames : List String} {names : Call → List String}

theorem WordingLaw.sql_eq
    (law : WordingLaw statement contribution initial wording initialNames
      names)
    (accepted : statement.Accepted) {calls : List Call} {query : Query}
    (built : (statement.addAll (calls.map contribution)).render = .ok query) :
    query.sql =
      (Wording.ofClauses statement.kind
        (initial ++ calls.map wording)).spell id := by
  let places := initial ++ calls.map wording
  let kind := statement.kind
  obtain ⟨noError, -⟩ := Statement.addAll_of_render_eq_ok accepted built
  obtain ⟨slots, contributed, taken⟩ :=
    Statement.written_of_render_eq_ok accepted built
  have spelled :
      (statement.slots ++ slots).map Slot.entry = places.map Wording.bare := by
    rw [List.map_append, List.map_append, law.initial_eq noError,
      Statement.map_of_contributed law.entry_eq contributed, List.map_map]
    rfl
  -- The walk looks at clauses only, so texts may be put in before or after it.
  have slotsMoved :
      (kind.arrange Slot.clause Slot.unlimited
          (statement.slots ++ slots)).map Slot.entry =
        kind.arrange Prod.fst Slot.unlimited.entry
          ((statement.slots ++ slots).map Slot.entry) :=
    kind.map_arrange Slot.unlimited fun _ _ => rfl
  have placesMoved :
      (kind.arrange Prod.fst (.limit, [.fixed "LIMIT -1"]) places).map
          Wording.bare =
        kind.arrange Prod.fst Slot.unlimited.entry
          (places.map Wording.bare) :=
    kind.map_arrange _ fun _ _ => rfl
  rw [Statement.sql_of_render_eq_ok (accepted.addAll _) built, taken,
    slotsMoved, spelled, ← placesMoved, Wording.ofClauses,
    Wording.spell_join, List.map_map, List.map_map]
  rfl

theorem WordingLaw.bareNames
    (law : WordingLaw statement contribution initial wording initialNames
      names)
    (accepted : statement.Accepted) {calls : List Call} {query : Query}
    (identifiers : ∀ name ∈ initialNames ++ calls.flatMap names,
      Lexer.isIdentifier name)
    (built : (statement.addAll (calls.map contribution)).render = .ok query)
    (reserved : List String) :
    BareNames reserved query.sql
      (Wording.ofClauses statement.kind (initial ++ calls.map wording)) where
  text_eq := law.sql_eq accepted built
  readsNames_iff := by
    rw [law.sql_eq accepted built]
    apply readsNames_bare
    · apply Wording.spaced_ofClauses
      intro place member
      rcases List.mem_append.mp member with first | added
      · exact law.initial_spaced place first
      · obtain ⟨call, -, rfl⟩ := List.mem_map.mp added
        exact law.spaced call
    · intro name member
      obtain ⟨place, given, named⟩ := Wording.of_mem_names_ofClauses member
      apply identifiers
      rcases List.mem_append.mp given with first | added
      · exact List.mem_append_left _ (law.initial_names place first name named)
      · obtain ⟨call, called, rfl⟩ := List.mem_map.mp added
        rw [law.names_eq] at named
        exact List.mem_append_right _
          (List.mem_flatMap.mpr ⟨call, called, named⟩)

end

namespace SelectCall

/-- The clause that a call adds, with its names marked. -/
def wording : SelectCall → Clause × Wording
  | .filter predicate => (.filter, .fixed "WHERE " :: predicate.wording)
  | .orderBy columns direction =>
      (.orderBy, Wording.ofColumns .orderBy columns Column.wording
        direction.wording)
  | .limit _ => (.limit, [.fixed "LIMIT ?"])
  | .offset _ => (.offset, [.fixed "OFFSET ?"])
  | .groupBy columns =>
      (.groupBy, Wording.ofColumns .groupBy columns Wording.ofName [])

theorem entry_eq {table : String} {call : SelectCall} {slot : Slot}
    (filled : call.slot table = .ok slot) :
    slot.entry = Wording.bare call.wording := by
  cases call with
  | filter predicate => exact Slot.entry_ofPredicate filled
  | orderBy columns direction =>
      exact Slot.entry_ofColumns filled Column.spell_wording
        direction.spell_wording
  | limit count =>
      cases filled
      rfl
  | offset count =>
      cases filled
      rfl
  | groupBy columns =>
      exact Slot.entry_ofColumns filled Wording.spell_ofName rfl

theorem spaced_wording (call : SelectCall) : call.wording.2.Spaced := by
  cases call with
  | filter predicate => exact .behind (by decide) predicate.spaced_wording
  | orderBy columns direction =>
      obtain ⟨spaced, apart⟩ := direction.spaced_wording
      exact Wording.spaced_ofColumns _ _ Column.spaced_wording spaced apart
  | limit count => exact .fixed (by decide)
  | offset count => exact .fixed (by decide)
  | groupBy columns =>
      exact Wording.spaced_ofColumns _ _ Wording.spaced_ofName .nil trivial

theorem names_wording (call : SelectCall) :
    call.wording.2.names = call.names := by
  cases call with
  | filter predicate => exact predicate.names_wording
  | orderBy columns direction =>
      exact Wording.names_ofColumns _ _ Column.names_wording rfl
  | limit count => rfl
  | offset count => rfl
  | groupBy columns =>
      exact Wording.names_ofColumns _ _ (fun _ => rfl) rfl

end SelectCall

namespace Select

def tableWording (table : String) : List (Clause × Wording) :=
  [(.select, [.fixed "SELECT *"]),
    (.source, [.fixed "FROM ", .mention table])]

/-- The clauses that a select begins with, with their names marked. -/
def beginning : Selection → List (Clause × Wording)
  | .records entity => tableWording entity.tableName
  | .rows schema => tableWording schema.tableName
  | .columns [] => []
  | .columns (first :: others) =>
      [(.select, .fixed "SELECT " ::
          Wording.join ", " ((first :: others).map Column.wording)),
        (.source, [.fixed "FROM ", .mention first.table])]

/-- A select with the names in it marked. -/
def wording (selection : Selection) (calls : List SelectCall) : Wording :=
  Wording.ofClauses .select
    (beginning selection ++ calls.map SelectCall.wording)

theorem entries_eq {selection : Selection}
    (noError : (ofSelection selection).statement.error = none) :
    (ofSelection selection).statement.slots.map Slot.entry =
      (beginning selection).map Wording.bare := by
  cases selection with
  | records entity => rfl
  | rows schema => rfl
  | columns columns =>
      cases columns with
      | nil => cases noError
      | cons first others =>
          cases written :
              ColumnList.write first.table (first :: others)
                Column.render with
          | error error =>
              simp [ofSelection, projection_of_error written] at noError
          | ok list =>
              simp only [ofSelection, projection_of_ok written,
                ColumnList.eq_of_write_eq_ok written]
              simp [Slot.entry, Slot.ofText, beginning, Wording.bare,
                Piece.spell, Column.spell_wording, Function.comp_def]

theorem spaced_beginning (selection : Selection) :
    ∀ place ∈ beginning selection, place.2.Spaced := by
  have whole : ∀ table, ∀ place ∈ tableWording table, place.2.Spaced := by
    intro table place member
    rcases List.mem_pair.mp member with rfl | rfl
    · exact .fixed (by decide)
    · exact .behind (by decide) (.mention table)
  intro place member
  cases selection with
  | records entity => exact whole _ place member
  | rows schema => exact whole _ place member
  | columns columns =>
      cases columns with
      | nil => cases member
      | cons first others =>
          rcases List.mem_pair.mp member with rfl | rfl
          · apply Wording.Spaced.behind (by decide)
            apply Wording.Spaced.join (by decide)
            intro wording listed
            obtain ⟨column, -, rfl⟩ := List.mem_map.mp listed
            exact column.spaced_wording
          · exact .behind (by decide) (.mention first.table)

theorem names_beginning (selection : Selection) :
    ∀ place ∈ beginning selection, ∀ name ∈ place.2.names,
      name ∈ selection.names := by
  intro place member name named
  cases selection with
  | records entity =>
      rcases List.mem_pair.mp member with rfl | rfl
      · cases named
      · exact named
  | rows schema =>
      rcases List.mem_pair.mp member with rfl | rfl
      · cases named
      · exact named
  | columns columns =>
      cases columns with
      | nil => cases member
      | cons first others =>
          rcases List.mem_pair.mp member with rfl | rfl
          · rw [Wording.names_fixed, Wording.names_join, List.flatMap_map]
              at named
            obtain ⟨column, listed, own⟩ := List.mem_flatMap.mp named
            rw [column.names_wording] at own
            exact List.mem_flatMap.mpr
              ⟨column, listed, List.mem_cons_of_mem _ own⟩
          · exact List.mem_flatMap.mpr
              ⟨first, List.mem_cons_self, List.mem_cons.mpr (.inl
                (List.mem_singleton.mp named))⟩

theorem wordingLaw (selection : Selection) :
    WordingLaw (ofSelection selection).statement
      (SelectCall.slot (ofSelection selection).statement.table)
      (beginning selection) SelectCall.wording selection.names
      SelectCall.names where
  initial_eq := entries_eq
  initial_spaced := spaced_beginning selection
  initial_names := names_beginning selection
  entry_eq := SelectCall.entry_eq
  spaced := SelectCall.spaced_wording
  names_eq := SelectCall.names_wording

theorem bareNames {selection : Selection} {calls : List SelectCall}
    {query : Query}
    (identifiers : ∀ name ∈ selection.names ++ calls.flatMap SelectCall.names,
      Lexer.isIdentifier name)
    (built : ((ofSelection selection).chain calls).build = .ok query)
    (reserved : List String) :
    BareNames reserved query.sql (wording selection calls) := by
  rw [build, statement_chain] at built
  rw [wording, ← kind_ofSelection selection]
  exact (wordingLaw selection).bareNames (accepted_ofSelection selection)
    identifiers built reserved

end Select

namespace UpdateCall

/-- The clause that a call adds, with its names marked. -/
def wording : UpdateCall → Clause × Wording
  | .filter predicate => (.filter, .fixed "WHERE " :: predicate.wording)
  | .returning columns =>
      (.returning, Wording.ofColumns .returning columns Wording.ofName [])
  | .returningAll => (.returning, [.fixed "RETURNING *"])
  | .orderBy columns direction =>
      (.orderBy, Wording.ofColumns .orderBy columns Wording.ofName
        direction.wording)
  | .limit _ => (.limit, [.fixed "LIMIT ?"])
  | .offset _ => (.offset, [.fixed "OFFSET ?"])

theorem entry_eq {table : String} {call : UpdateCall} {slot : Slot}
    (filled : call.slot table = .ok slot) :
    slot.entry = Wording.bare call.wording := by
  cases call with
  | filter predicate => exact Slot.entry_ofPredicate filled
  | returning columns =>
      exact Slot.entry_ofColumns filled Wording.spell_ofName rfl
  | returningAll =>
      cases filled
      rfl
  | orderBy columns direction =>
      exact Slot.entry_ofColumns filled Wording.spell_ofName
        direction.spell_wording
  | limit count =>
      cases filled
      rfl
  | offset count =>
      cases filled
      rfl

theorem spaced_wording (call : UpdateCall) : call.wording.2.Spaced := by
  cases call with
  | filter predicate => exact .behind (by decide) predicate.spaced_wording
  | returning columns =>
      exact Wording.spaced_ofColumns _ _ Wording.spaced_ofName .nil trivial
  | returningAll => exact .fixed (by decide)
  | orderBy columns direction =>
      obtain ⟨spaced, apart⟩ := direction.spaced_wording
      exact Wording.spaced_ofColumns _ _ Wording.spaced_ofName spaced apart
  | limit count => exact .fixed (by decide)
  | offset count => exact .fixed (by decide)

theorem names_wording (call : UpdateCall) :
    call.wording.2.names = call.names := by
  cases call with
  | filter predicate => exact predicate.names_wording
  | returning columns =>
      exact Wording.names_ofColumns _ _ (fun _ => rfl) rfl
  | returningAll => rfl
  | orderBy columns direction =>
      exact Wording.names_ofColumns _ _ (fun _ => rfl) rfl
  | limit count => rfl
  | offset count => rfl

end UpdateCall

namespace Update

/-- The clauses that an update begins with, with their names marked. -/
def beginning : List Assignment → List (Clause × Wording)
  | [] => []
  | first :: others =>
      [(.update, [.fixed "UPDATE ", .mention first.table]),
        (.assignments, .fixed "SET " ::
          Wording.join ", " ((first :: others).map Assignment.wording))]

/-- An update with the names in it marked. -/
def wording (assignments : List Assignment) (calls : List UpdateCall) :
    Wording :=
  Wording.ofClauses .update
    (beginning assignments ++ calls.map UpdateCall.wording)

theorem entries_eq {assignments : List Assignment}
    (noError : (ofAssignments assignments).statement.error = none) :
    (ofAssignments assignments).statement.slots.map Slot.entry =
      (beginning assignments).map Wording.bare := by
  cases assignments with
  | nil => cases noError
  | cons first others =>
      cases found : others.find? (·.table ≠ first.table) with
      | some other =>
          simp only [ofAssignments, assigning_of_other found] at noError
          cases noError
      | none =>
          simp only [ofAssignments, assigning_of_single found]
          simp [Slot.entry, Slot.ofText, assignmentSlot, beginning,
            Wording.bare, Piece.spell, Assignment.spell_wording,
            Function.comp_def]

theorem spaced_beginning (assignments : List Assignment) :
    ∀ place ∈ beginning assignments, place.2.Spaced := by
  intro place member
  cases assignments with
  | nil => cases member
  | cons first others =>
      rcases List.mem_pair.mp member with rfl | rfl
      · exact .behind (by decide) (.mention first.table)
      · apply Wording.Spaced.behind (by decide)
        apply Wording.Spaced.join (by decide)
        intro wording listed
        obtain ⟨assignment, -, rfl⟩ := List.mem_map.mp listed
        exact assignment.spaced_wording

theorem names_beginning (assignments : List Assignment) :
    ∀ place ∈ beginning assignments, ∀ name ∈ place.2.names,
      name ∈ names assignments := by
  intro place member name named
  cases assignments with
  | nil => cases member
  | cons first others =>
      rcases List.mem_pair.mp member with rfl | rfl
      · exact List.mem_flatMap.mpr
          ⟨first, List.mem_cons_self, List.mem_cons.mpr (.inl
            (List.mem_singleton.mp named))⟩
      · rw [Wording.names_fixed, Wording.names_join, List.flatMap_map]
          at named
        obtain ⟨assignment, listed, own⟩ := List.mem_flatMap.mp named
        have isColumn : name = assignment.column := by
          simpa [Assignment.wording] using own
        rw [isColumn]
        exact List.mem_flatMap.mpr ⟨assignment, listed, by simp⟩

theorem wordingLaw (assignments : List Assignment) :
    WordingLaw (ofAssignments assignments).statement
      (UpdateCall.slot (ofAssignments assignments).statement.table)
      (beginning assignments) UpdateCall.wording (names assignments)
      UpdateCall.names where
  initial_eq := entries_eq
  initial_spaced := spaced_beginning assignments
  initial_names := names_beginning assignments
  entry_eq := UpdateCall.entry_eq
  spaced := UpdateCall.spaced_wording
  names_eq := UpdateCall.names_wording

theorem bareNames {assignments : List Assignment} {calls : List UpdateCall}
    {query : Query}
    (identifiers : ∀ name ∈ names assignments ++
      calls.flatMap UpdateCall.names, Lexer.isIdentifier name)
    (built : ((ofAssignments assignments).chain calls).build = .ok query)
    (reserved : List String) :
    BareNames reserved query.sql (wording assignments calls) := by
  rw [build, statement_chain] at built
  rw [wording, ← kind_ofAssignments assignments]
  exact (wordingLaw assignments).bareNames
    (accepted_ofAssignments assignments) identifiers built reserved

end Update

namespace DeleteCall

/-- The clause that a call adds, with its names marked. -/
def wording : DeleteCall → Clause × Wording
  | .filter predicate => (.filter, .fixed "WHERE " :: predicate.wording)
  | .returning columns =>
      (.returning, Wording.ofColumns .returning columns Wording.ofName [])
  | .returningAll => (.returning, [.fixed "RETURNING *"])

theorem entry_eq {table : String} {call : DeleteCall} {slot : Slot}
    (filled : call.slot table = .ok slot) :
    slot.entry = Wording.bare call.wording := by
  cases call with
  | filter predicate => exact Slot.entry_ofPredicate filled
  | returning columns =>
      exact Slot.entry_ofColumns filled Wording.spell_ofName rfl
  | returningAll =>
      cases filled
      rfl

theorem spaced_wording (call : DeleteCall) : call.wording.2.Spaced := by
  cases call with
  | filter predicate => exact .behind (by decide) predicate.spaced_wording
  | returning columns =>
      exact Wording.spaced_ofColumns _ _ Wording.spaced_ofName .nil trivial
  | returningAll => exact .fixed (by decide)

theorem names_wording (call : DeleteCall) :
    call.wording.2.names = call.names := by
  cases call with
  | filter predicate => exact predicate.names_wording
  | returning columns =>
      exact Wording.names_ofColumns _ _ (fun _ => rfl) rfl
  | returningAll => rfl

end DeleteCall

namespace Delete

/-- The clause that a delete begins with, with its names marked. -/
def beginning : Selection → List (Clause × Wording)
  | .records entity =>
      [(.delete, [.fixed "DELETE FROM ", .mention entity.tableName])]
  | .rows schema =>
      [(.delete, [.fixed "DELETE FROM ", .mention schema.tableName])]
  | .columns _ => []

/-- A delete with the names in it marked. -/
def wording (selection : Selection) (calls : List DeleteCall) : Wording :=
  Wording.ofClauses .delete
    (beginning selection ++ calls.map DeleteCall.wording)

theorem entries_eq {selection : Selection}
    (noError : (ofSelection selection).statement.error = none) :
    (ofSelection selection).statement.slots.map Slot.entry =
      (beginning selection).map Wording.bare := by
  cases selection with
  | records entity => rfl
  | rows schema => rfl
  | columns columns => cases noError

theorem spaced_beginning (selection : Selection) :
    ∀ place ∈ beginning selection, place.2.Spaced := by
  intro place member
  cases selection with
  | records entity =>
      cases List.mem_singleton.mp member
      exact .behind (by decide) (.mention entity.tableName)
  | rows schema =>
      cases List.mem_singleton.mp member
      exact .behind (by decide) (.mention schema.tableName)
  | columns columns => cases member

theorem names_beginning (selection : Selection) :
    ∀ place ∈ beginning selection, ∀ name ∈ place.2.names,
      name ∈ selection.names := by
  intro place member name named
  cases selection with
  | records entity =>
      cases List.mem_singleton.mp member
      exact named
  | rows schema =>
      cases List.mem_singleton.mp member
      exact named
  | columns columns => cases member

theorem wordingLaw (selection : Selection) :
    WordingLaw (ofSelection selection).statement
      (DeleteCall.slot (ofSelection selection).statement.table)
      (beginning selection) DeleteCall.wording selection.names
      DeleteCall.names where
  initial_eq := entries_eq
  initial_spaced := spaced_beginning selection
  initial_names := names_beginning selection
  entry_eq := DeleteCall.entry_eq
  spaced := DeleteCall.spaced_wording
  names_eq := DeleteCall.names_wording

theorem bareNames {selection : Selection} {calls : List DeleteCall}
    {query : Query}
    (identifiers : ∀ name ∈ selection.names ++ calls.flatMap DeleteCall.names,
      Lexer.isIdentifier name)
    (built : ((ofSelection selection).chain calls).build = .ok query)
    (reserved : List String) :
    BareNames reserved query.sql (wording selection calls) := by
  rw [build, statement_chain] at built
  rw [wording, ← kind_ofSelection selection]
  exact (wordingLaw selection).bareNames (accepted_ofSelection selection)
    identifiers built reserved

end Delete

end TypedSql
