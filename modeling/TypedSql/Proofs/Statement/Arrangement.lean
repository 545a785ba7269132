import Mathlib.Data.List.Basic
import Mathlib.Data.List.Find
import TypedSql.Statement.Rendering

/-!
# Arranged slots

Sorting by rank brings the slots of each clause together, in the order of the
clauses that the kind of statement accepts.  A statement is therefore the
outcome of a walk over these clauses, in which nothing is sorted, and the order
of its slots shows only where a clause is repeated.
-/

namespace TypedSql

namespace StatementKind

/-- What stands at the place of a clause: the first item that fills it, or
`unlimited` where an offset comes without a limit. -/
def placed? {α : Type} (clauseOf : α → Clause) (unlimited : α)
    (items : List α) (clause : Clause) : Option α :=
  match items.find? (clauseOf · = clause) with
  | some item => some item
  | none =>
      if clause = .limit ∧ .offset ∈ items.map clauseOf then some unlimited
      else none

/-- Walks over the clauses of a kind and takes what stands at their places. -/
def arrange {α : Type} (kind : StatementKind) (clauseOf : α → Clause)
    (unlimited : α) (items : List α) : List α :=
  kind.clauses.filterMap (placed? clauseOf unlimited items)

theorem mem_arrange {α : Type} {kind : StatementKind} {clauseOf : α → Clause}
    {unlimited item : α} {items : List α}
    (member : item ∈ kind.arrange clauseOf unlimited items) :
    item ∈ items ∨ item = unlimited := by
  obtain ⟨clause, -, placed⟩ := List.mem_filterMap.mp member
  unfold placed? at placed
  split at placed
  case h_1 found =>
    cases placed
    exact .inl (List.mem_of_find?_eq_some found)
  case h_2 =>
    split at placed
    · cases placed
      exact .inr rfl
    · cases placed

/-- What fills a clause may be changed before or after the walk. -/
theorem map_arrange {α β : Type} (kind : StatementKind)
    {clauseOf : α → Clause} {clauseOf' : β → Clause} {change : α → β}
    (unlimited : α) {items : List α}
    (same : ∀ item ∈ items, clauseOf' (change item) = clauseOf item) :
    (kind.arrange clauseOf unlimited items).map change =
      kind.arrange clauseOf' (change unlimited) (items.map change) := by
  have clauses : (items.map change).map clauseOf' = items.map clauseOf := by
    rw [List.map_map]
    exact List.map_congr_left same
  unfold arrange
  rw [List.map_filterMap]
  apply List.filterMap_congr
  intro clause member
  have found :
      (items.map change).find? (clauseOf' · = clause) =
        (items.find? (clauseOf · = clause)).map change := by
    rw [List.find?_map]
    apply congrArg (Option.map change)
    apply List.find?_congr
    intro item itemMember
    simp [same item itemMember]
  unfold placed?
  rw [found, clauses]
  cases items.find? (clauseOf · = clause) with
  | some item => rfl
  | none =>
      dsimp only [Option.map_none]
      split <;> rfl

theorem clauses_pairwise_rank (kind : StatementKind) :
    kind.clauses.Pairwise fun first second =>
      kind.rank first < kind.rank second := by
  cases kind <;> decide

theorem clauses_nodup (kind : StatementKind) : kind.clauses.Nodup := by
  cases kind <;> decide

theorem limit_mem_clauses_of_offset {kind : StatementKind}
    (accepted : Clause.offset ∈ kind.clauses) :
    Clause.limit ∈ kind.clauses := by
  cases kind <;> revert accepted <;> decide

end StatementKind

namespace Slot

/-- The slots that fill a clause, in order. -/
def filling (slots : List Slot) (clause : Clause) : List Slot :=
  slots.filter (·.clause = clause)

theorem clause_eq_of_mem_filling {slots : List Slot} {clause : Clause}
    {slot : Slot} (member : slot ∈ filling slots clause) :
    slot.clause = clause := by
  simpa using (List.mem_filter.mp member).2

@[simp] theorem filling_cons_self (slot : Slot) (slots : List Slot) :
    filling (slot :: slots) slot.clause =
      slot :: filling slots slot.clause := by
  simp [filling]

theorem filling_cons_of_ne {slot : Slot} {clause : Clause}
    (slots : List Slot) (different : slot.clause ≠ clause) :
    filling (slot :: slots) clause = filling slots clause := by
  simp [filling, different]

theorem length_filling (slots : List Slot) (clause : Clause) :
    (filling slots clause).length = (slots.map (·.clause)).count clause := by
  induction slots with
  | nil => rfl
  | cons slot slots induction =>
      by_cases same : slot.clause = clause
      · subst same
        simp [induction]
      · simp [filling_cons_of_ne slots same, same, induction]

theorem insertByRank_append (kind : StatementKind) (slot : Slot)
    {before after : List Slot}
    (below : ∀ other ∈ before, kind.rank other.clause < kind.rank slot.clause)
    (above : ∀ other ∈ after, kind.rank slot.clause ≤ kind.rank other.clause) :
    insertByRank kind slot (before ++ after) = before ++ slot :: after := by
  induction before with
  | nil =>
      cases after with
      | nil => rfl
      | cons other after =>
          have notBelow := above other (by simp)
          simp [insertByRank, notBelow]
  | cons other before induction =>
      have otherBelow := below other (by simp)
      have restBelow : ∀ item ∈ before,
          kind.rank item.clause < kind.rank slot.clause := by
        intro item member
        exact below item (by simp [member])
      simp [insertByRank, Nat.not_le.mpr otherBelow, induction restBelow]

/-- A slot that is inserted into blocks of slots, one for each clause, comes
first in the block of its own clause. -/
theorem insertByRank_blocks (kind : StatementKind) (slot : Slot)
    (slots : List Slot) (accepted : slot.clause ∈ kind.clauses) :
    insertByRank kind slot (kind.clauses.flatMap (filling slots)) =
      kind.clauses.flatMap (filling (slot :: slots)) := by
  obtain ⟨before, after, split⟩ := List.append_of_mem accepted
  have ranked := kind.clauses_pairwise_rank
  rw [split, List.pairwise_append, List.pairwise_cons] at ranked
  obtain ⟨-, ⟨rankedAfter, -⟩, rankedBefore⟩ := ranked
  have sameBefore :
      before.flatMap (filling (slot :: slots)) =
        before.flatMap (filling slots) := by
    apply List.flatMap_congr
    intro clause member
    have lower := rankedBefore clause member slot.clause (by simp)
    exact filling_cons_of_ne slots (fun same => by simp [same] at lower)
  have sameAfter :
      after.flatMap (filling (slot :: slots)) =
        after.flatMap (filling slots) := by
    apply List.flatMap_congr
    intro clause member
    have higher := rankedAfter clause member
    exact filling_cons_of_ne slots (fun same => by simp [same] at higher)
  have below : ∀ other ∈ before.flatMap (filling slots),
      kind.rank other.clause < kind.rank slot.clause := by
    intro other member
    obtain ⟨clause, clauseMember, filled⟩ := List.mem_flatMap.mp member
    rw [clause_eq_of_mem_filling filled]
    exact rankedBefore clause clauseMember slot.clause (by simp)
  have above :
      ∀ other ∈ filling slots slot.clause ++ after.flatMap (filling slots),
        kind.rank slot.clause ≤ kind.rank other.clause := by
    intro other member
    rcases List.mem_append.mp member with own | later
    · rw [clause_eq_of_mem_filling own]
    · obtain ⟨clause, clauseMember, filled⟩ := List.mem_flatMap.mp later
      rw [clause_eq_of_mem_filling filled]
      exact Nat.le_of_lt (rankedAfter clause clauseMember)
  rw [split]
  simp only [List.flatMap_append, List.flatMap_cons, sameBefore, sameAfter,
    filling_cons_self, List.cons_append]
  exact insertByRank_append kind slot below above

/-- Sorting is the same as taking the slots clause by clause. -/
theorem sortByRank_eq_blocks (kind : StatementKind) {slots : List Slot}
    (accepted : ∀ slot ∈ slots, slot.clause ∈ kind.clauses) :
    sortByRank kind slots = kind.clauses.flatMap (filling slots) := by
  induction slots with
  | nil => simp [sortByRank, filling]
  | cons slot slots induction =>
      have restAccepted : ∀ other ∈ slots, other.clause ∈ kind.clauses := by
        intro other member
        exact accepted other (by simp [member])
      have sorted := induction restAccepted
      simp only [sortByRank, List.foldr_cons] at sorted ⊢
      rw [sorted]
      exact insertByRank_blocks kind slot slots (accepted slot (by simp))

theorem firstRepeated?_block {clause : Clause} {block rest : List Slot}
    (filled : ∀ slot ∈ block, slot.clause = clause)
    (others : ∀ slot ∈ rest, slot.clause ≠ clause) :
    firstRepeated? (block ++ rest) =
      if 2 ≤ block.length then some clause else firstRepeated? rest := by
  match block with
  | [] => simp
  | [slot] =>
      have own := filled slot (by simp)
      cases rest with
      | nil => simp [firstRepeated?]
      | cons other rest =>
          have different : slot.clause ≠ other.clause := by
            rw [own]
            exact (others other (by simp)).symm
          simp [firstRepeated?, different]
  | first :: second :: block =>
      have ownFirst := filled first (by simp)
      have ownSecond := filled second (by simp)
      simp [firstRepeated?, ownFirst, ownSecond]

/-- Among the slots taken clause by clause, the first repeated clause is the
first that has two slots. -/
theorem firstRepeated?_blocks {clauses : List Clause} (slots : List Slot)
    (distinct : clauses.Nodup) :
    firstRepeated? (clauses.flatMap (filling slots)) =
      clauses.find? (2 ≤ (slots.map (·.clause)).count ·) := by
  induction clauses with
  | nil => rfl
  | cons clause clauses induction =>
      obtain ⟨absent, restDistinct⟩ := List.nodup_cons.mp distinct
      have filled : ∀ slot ∈ filling slots clause, slot.clause = clause :=
        fun _ member => clause_eq_of_mem_filling member
      have others : ∀ slot ∈ clauses.flatMap (filling slots),
          slot.clause ≠ clause := by
        intro slot member same
        obtain ⟨other, otherMember, fills⟩ := List.mem_flatMap.mp member
        rw [← same, clause_eq_of_mem_filling fills] at absent
        exact absent otherMember
      rw [List.flatMap_cons, firstRepeated?_block filled others,
        induction restDistinct, length_filling, List.find?_cons]
      by_cases twice : 2 ≤ (slots.map (·.clause)).count clause
      · simp [twice]
      · simp [twice]

/-- The slots with the limit that an offset cannot do without. -/
def completed (slots : List Slot) : List Slot :=
  if .offset ∈ slots.map (·.clause) ∧ .limit ∉ slots.map (·.clause) then
    slots ++ [unlimited]
  else slots

theorem completed_accepted {kind : StatementKind} {slots : List Slot}
    (accepted : ∀ slot ∈ slots, slot.clause ∈ kind.clauses) :
    ∀ slot ∈ completed slots, slot.clause ∈ kind.clauses := by
  intro slot member
  unfold completed at member
  split at member
  case isFalse => exact accepted slot member
  case isTrue offsetAlone =>
    rcases List.mem_append.mp member with added | isUnlimited
    · exact accepted slot added
    · obtain ⟨offset, offsetMember, isOffset⟩ :=
        List.mem_map.mp offsetAlone.1
      have offsetAccepted := accepted offset offsetMember
      rw [isOffset] at offsetAccepted
      rw [List.mem_singleton.mp isUnlimited]
      exact StatementKind.limit_mem_clauses_of_offset offsetAccepted

/-- The limit that is added never makes a clause a repeated one. -/
theorem two_le_count_completed (slots : List Slot) (clause : Clause) :
    2 ≤ ((completed slots).map (·.clause)).count clause ↔
      2 ≤ (slots.map (·.clause)).count clause := by
  unfold completed
  split
  case isFalse => rfl
  case isTrue offsetAlone =>
    have noLimit : (slots.map (·.clause)).count .limit = 0 :=
      List.count_eq_zero.mpr offsetAlone.2
    by_cases isLimit : clause = .limit
    · subst isLimit
      simp [unlimited, ofText, noLimit]
    · have different : Clause.limit ≠ clause := fun same => isLimit same.symm
      simp [unlimited, ofText, different]

/-- What stands at the place of a clause heads its block of completed slots. -/
theorem head?_filling_completed (slots : List Slot) (clause : Clause) :
    (filling (completed slots) clause).head? =
      StatementKind.placed? Slot.clause unlimited slots clause := by
  simp only [filling, List.head?_filter, StatementKind.placed?]
  unfold completed
  split
  case isTrue offsetAlone =>
    rw [List.find?_append]
    cases found : slots.find? (·.clause = clause) with
    | some slot => simp
    | none =>
        by_cases isLimit : clause = .limit
        · subst isLimit
          simp [unlimited, ofText, offsetAlone.1]
        · have different : Clause.limit ≠ clause :=
            fun same => isLimit same.symm
          simp [unlimited, ofText, isLimit, different]
  case isFalse complete =>
    cases found : slots.find? (·.clause = clause) with
    | some slot => simp
    | none =>
        have absent : clause ∉ slots.map (·.clause) := by
          simpa using found
        have noRepair :
            ¬(clause = .limit ∧ .offset ∈ slots.map (·.clause)) := by
          rintro ⟨rfl, offset⟩
          exact complete ⟨offset, absent⟩
        simp only [noRepair, if_false]

/-- Without a repeated clause the blocks are what stands at their places. -/
theorem blocks_completed_eq_arrange (kind : StatementKind) {slots : List Slot}
    (single : ∀ clause ∈ kind.clauses,
      ¬2 ≤ (slots.map (·.clause)).count clause) :
    kind.clauses.flatMap (filling (completed slots)) =
      kind.arrange Slot.clause unlimited slots := by
  rw [StatementKind.arrange, List.filterMap_eq_flatMap_toList]
  apply List.flatMap_congr
  intro clause member
  have short : (filling (completed slots) clause).length ≤ 1 := by
    have notTwice := single clause member
    rw [← two_le_count_completed, ← length_filling] at notTwice
    omega
  rw [← head?_filling_completed]
  match block : filling (completed slots) clause with
  | [] => rfl
  | [slot] => rfl
  | first :: second :: rest => simp [block] at short

end Slot

namespace Statement

/-- Every slot fills a clause that statements of the kind accept. -/
def Accepted (statement : Statement) : Prop :=
  ∀ slot ∈ statement.slots, slot.clause ∈ statement.kind.clauses

/-- The texts of slots with single spaces between them, and the stored forms of
all their values in order. -/
def querying (slots : List Slot) : Query :=
  { sql := " ".intercalate (slots.map (·.sql))
    parameters := slots.flatMap (·.values.map Value.toDatum) }

/-- A query without sorting: the first error, a missing clause, an unsupported
combination or a repeated clause, in this order of precedence, and otherwise
what a walk over the clauses takes. -/
def assemble (kind : StatementKind) (firstError : Option Error)
    (slots : List Slot) : Except Error Query :=
  let present := slots.map (·.clause)
  match firstError with
  | some error => .error error
  | none =>
      match kind.mandatory.find? (· ∉ present) with
      | some clause => .error (.missingClause clause)
      | none =>
          if kind = .update ∧ (.limit ∈ present ∨ .offset ∈ present) ∧
              .returning ∉ present then
            .error .limitWithoutReturning
          else
            match kind.clauses.find? (2 ≤ present.count ·) with
            | some clause => .error (.duplicateClause clause)
            | none =>
                .ok (querying (kind.arrange Slot.clause Slot.unlimited slots))

theorem of_assemble_eq_ok {kind : StatementKind} {firstError : Option Error}
    {slots : List Slot} {query : Query}
    (assembled : assemble kind firstError slots = .ok query) :
    firstError = none ∧
      query = querying (kind.arrange Slot.clause Slot.unlimited slots) := by
  unfold assemble at assembled
  cases firstError with
  | some error => cases assembled
  | none =>
      dsimp only at assembled
      split at assembled
      · cases assembled
      · split at assembled
        · cases assembled
        · split at assembled
          · cases assembled
          · cases assembled
            exact ⟨rfl, rfl⟩

theorem single_of_assemble_eq_ok {kind : StatementKind}
    {firstError : Option Error} {slots : List Slot} {query : Query}
    (assembled : assemble kind firstError slots = .ok query) :
    ∀ clause ∈ kind.clauses, ¬2 ≤ (slots.map (·.clause)).count clause := by
  unfold assemble at assembled
  cases firstError with
  | some error => cases assembled
  | none =>
      dsimp only at assembled
      split at assembled
      · cases assembled
      · split at assembled
        · cases assembled
        · cases repeated :
              kind.clauses.find? (2 ≤ (slots.map (·.clause)).count ·) with
          | some clause => simp [repeated] at assembled
          | none => simpa using repeated

theorem has_eq_decide (statement : Statement) (clause : Clause) :
    statement.has clause =
      decide (clause ∈ statement.slots.map (·.clause)) := by
  rw [Bool.eq_iff_iff]
  simp [has]

theorem orderedSlots_eq_sortByRank (statement : Statement) :
    statement.orderedSlots =
      Slot.sortByRank statement.kind (Slot.completed statement.slots) := by
  simp [orderedSlots, Slot.completed, has_eq_decide]

theorem orderedSlots_eq_blocks {statement : Statement}
    (accepted : statement.Accepted) :
    statement.orderedSlots =
      statement.kind.clauses.flatMap
        (Slot.filling (Slot.completed statement.slots)) := by
  rw [orderedSlots_eq_sortByRank]
  exact Slot.sortByRank_eq_blocks _ (Slot.completed_accepted accepted)

theorem limitsSilently_iff (statement : Statement) :
    statement.limitsSilently = true ↔
      statement.kind = .update ∧
        (.limit ∈ statement.slots.map (·.clause) ∨
          .offset ∈ statement.slots.map (·.clause)) ∧
        .returning ∉ statement.slots.map (·.clause) := by
  simp [limitsSilently, has_eq_decide, and_assoc]

/-- A statement whose slots are accepted is rendered as the walk has it. -/
theorem render_eq_assemble {statement : Statement}
    (accepted : statement.Accepted) :
    statement.render =
      assemble statement.kind statement.error statement.slots := by
  have repeated :
      Slot.firstRepeated? statement.orderedSlots =
        statement.kind.clauses.find?
          (2 ≤ (statement.slots.map (·.clause)).count ·) := by
    rw [orderedSlots_eq_blocks accepted,
      Slot.firstRepeated?_blocks _ statement.kind.clauses_nodup]
    simp only [Slot.two_le_count_completed]
  have missing :
      statement.kind.mandatory.find? (!statement.has ·) =
        statement.kind.mandatory.find?
          (· ∉ statement.slots.map (·.clause)) := by
    simp only [has_eq_decide, decide_not]
  unfold render assemble
  cases statement.error with
  | some error => rfl
  | none =>
      simp only [missing, repeated, limitsSilently_iff]
      cases statement.kind.mandatory.find? _ with
      | some clause => rfl
      | none =>
          cases twice : statement.kind.clauses.find? _ with
          | some clause => rfl
          | none =>
              have single : ∀ clause ∈ statement.kind.clauses,
                  ¬2 ≤ (statement.slots.map (·.clause)).count clause := by
                simpa using twice
              rw [orderedSlots_eq_blocks accepted,
                Slot.blocks_completed_eq_arrange statement.kind single]
              rfl

/-- The slots of a statement that is rendered are those that the walk takes. -/
theorem orderedSlots_of_render_eq_ok {statement : Statement}
    (accepted : statement.Accepted) {query : Query}
    (rendered : statement.render = .ok query) :
    statement.orderedSlots =
        statement.kind.arrange Slot.clause Slot.unlimited statement.slots ∧
      query = querying statement.orderedSlots := by
  rw [render_eq_assemble accepted] at rendered
  obtain ⟨-, isQuery⟩ := of_assemble_eq_ok rendered
  rw [orderedSlots_eq_blocks accepted,
    Slot.blocks_completed_eq_arrange _ (single_of_assemble_eq_ok rendered)]
  exact ⟨rfl, isQuery⟩

end Statement

end TypedSql
