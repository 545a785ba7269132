import TypedSql.Proofs.Expression.OperandChecks
import TypedSql.Schema

/-!
# Lists of operands and their disjunctions

A condition on a row with nulls is true, false or unknown, and keeps the row
only if it is true.  A list of operands keeps the same rows as the disjunction
of equalities with them, unless a null is listed and the column is null too.
The equality is then written as a test for null, while an element of a list is
compared as it stands.
-/

namespace TypedSql

/-- The value of a condition on a row. -/
inductive Truth where
  | yes
  | no
  | unknown
deriving DecidableEq, Repr

namespace Truth

def ofBool (holds : Bool) : Truth :=
  if holds then .yes else .no

def or : Truth → Truth → Truth
  | .yes, _ => .yes
  | _, .yes => .yes
  | .no, .no => .no
  | _, _ => .unknown

def and : Truth → Truth → Truth
  | .no, _ => .no
  | _, .no => .no
  | .yes, .yes => .yes
  | _, _ => .unknown

theorem ofBool_eq_yes_iff {holds : Bool} :
    ofBool holds = .yes ↔ holds = true := by
  cases holds <;> decide

theorem or_eq_yes_iff {left right : Truth} :
    left.or right = .yes ↔ left = .yes ∨ right = .yes := by
  cases left <;> cases right <;> decide

end Truth

/-- Whether a storage engine holds a comparison, by its symbol, of two data that
are not null.  Which ones it holds depends on collations and affinities, and is
left open here. -/
abbrev Comparing := String → Datum → Datum → Bool

namespace Comparing

/-- Both data are null, or neither is and they are equal. -/
def identical (comparing : Comparing) (cell operand : Datum) : Bool :=
  if cell.isNull || operand.isNull then cell.isNull && operand.isNull
  else comparing "=" cell operand

/-- How an operator that stands between a column and a placeholder is read. -/
def test (comparing : Comparing) (operator : String) (cell operand : Datum) :
    Truth :=
  if operator = "IS" then .ofBool (comparing.identical cell operand)
  else if operator = "IS NOT" then
    .ofBool (!comparing.identical cell operand)
  else if cell.isNull || operand.isNull then .unknown
  else .ofBool (comparing operator cell operand)

end Comparing

namespace Predicate

/-- The value of a written condition on a row.  A list stands for the equality
with one of its elements. -/
def truth (comparing : Comparing) (row : String → Datum) : Predicate → Truth
  | .compare _ column comparison operand =>
      comparing.test (relation comparison operand) (row column)
        operand.toDatum
  | .among _ column operands =>
      operands.foldr
        (fun operand others =>
          (comparing.test "=" (row column) operand.toDatum).or others)
        .no
  | .both left right =>
      (left.truth comparing row).and (right.truth comparing row)
  | .either left right =>
      (left.truth comparing row).or (right.truth comparing row)

/-- The row is among those that the condition selects. -/
def Keeps (comparing : Comparing) (row : String → Datum)
    (predicate : Predicate) : Prop :=
  predicate.truth comparing row = .yes

end Predicate

theorem Datum.isNull_iff {datum : Datum} :
    datum.isNull = true ↔ datum = .null := by
  cases datum <;> simp [isNull]

/-- Null equals nothing, itself included. -/
theorem Comparing.equal_iff {comparing : Comparing} {cell operand : Datum} :
    comparing.test "=" cell operand = .yes ↔
      cell ≠ .null ∧ operand ≠ .null ∧ comparing "=" cell operand = true := by
  have noTest : "=" ≠ "IS" ∧ "=" ≠ "IS NOT" := by decide
  rw [test, if_neg noTest.1, if_neg noTest.2, ne_eq, ne_eq,
    ← Datum.isNull_iff, ← Datum.isNull_iff]
  cases cell.isNull <;> cases operand.isNull <;>
    simp [Truth.ofBool_eq_yes_iff]

/-- A test for null tells null from everything else. -/
theorem Comparing.isNull_iff {comparing : Comparing} {cell : Datum} :
    comparing.test "IS" cell .null = .yes ↔ cell = .null := by
  rw [test, if_pos rfl, Truth.ofBool_eq_yes_iff, ← Datum.isNull_iff, identical]
  simp [Datum.isNull]

namespace Predicate

variable {comparing : Comparing} {row : String → Datum}
  {table column : String}

/-- An equality is written as a test for null if its operand is null. -/
theorem keeps_equality_iff {operand : Value} :
    (compare table column .eq operand).Keeps comparing row ↔
      operand = .null ∧ row column = .null ∨
        comparing.test "=" (row column) operand.toDatum = .yes := by
  cases operand with
  | null =>
      have unequal : ¬comparing.test "=" (row column) .null = .yes := by
        simp [Comparing.equal_iff]
      have written : (compare table column .eq .null).Keeps comparing row ↔
          row column = .null := Comparing.isNull_iff
      simp [written, unequal, Value.toDatum]
  | integer | real | text | boolean | bytes | timestamp | date | json =>
      simp [Keeps, truth, relation, Value.isNull, Comparison.symbol]

theorem keeps_among_iff {operands : List Value} :
    (among table column operands).Keeps comparing row ↔
      ∃ operand ∈ operands,
        comparing.test "=" (row column) operand.toDatum = .yes := by
  unfold Keeps truth
  induction operands with
  | nil => simp
  | cons operand operands induction =>
      rw [List.foldr_cons, Truth.or_eq_yes_iff, induction]
      simp

/-- A disjunction that is built up from the left keeps the rows of all its
parts. -/
theorem keeps_foldl_either_iff {start : Predicate} {operands : List Value}
    {part : Value → Predicate} :
    (operands.foldl (fun disjunction operand =>
        either disjunction (part operand)) start).Keeps comparing row ↔
      start.Keeps comparing row ∨
        ∃ operand ∈ operands, (part operand).Keeps comparing row := by
  induction operands generalizing start with
  | nil => simp
  | cons operand operands induction =>
      have step :
          (either start (part operand)).Keeps comparing row ↔
            start.Keeps comparing row ∨ (part operand).Keeps comparing row :=
        Truth.or_eq_yes_iff
      rw [List.foldl_cons, induction, step, or_assoc]
      simp

end Predicate

namespace Column

/-- The column equals one of the operands, as a disjunction of equalities. -/
def equalsEither (column : Column) (first : Value) (others : List Value) :
    Except Error Predicate := do
  let equality ← column.compare .eq first
  others.foldlM
    (fun disjunction operand => do
      let equality ← column.compare .eq operand
      return .either disjunction equality)
    equality

theorem equalsEither_eq_ok {column : Column} {first : Value}
    {others : List Value}
    (takes : ∀ operand ∈ first :: others, column.Takes operand) :
    column.equalsEither first others =
      .ok (others.foldl
        (fun disjunction operand =>
          .either disjunction (.compare column.table column.name .eq operand))
        (.compare column.table column.name .eq first)) := by
  have compared {operand : Value} (taken : column.Takes operand) :
      column.compare .eq operand =
        .ok (.compare column.table column.name .eq operand) :=
    compare_eq_ok_iff.mpr ⟨taken, rfl⟩
  obtain ⟨firstTaken, othersTaken⟩ := List.forall_mem_cons.mp takes
  clear takes
  apply bind_eq_ok_iff.mpr
  refine ⟨_, compared firstTaken, ?_⟩
  -- The disjunction grows on the way, so it is left open.
  generalize Predicate.compare column.table column.name .eq first = start
  induction others generalizing start with
  | nil => rfl
  | cons operand others induction =>
      obtain ⟨operandTaken, rest⟩ := List.forall_mem_cons.mp othersTaken
      rw [List.foldlM_cons, compared operandTaken]
      exact induction rest _

/-- A list that the column accepts selects the same rows as the disjunction of
equalities with its elements, apart from rows in which the column is null: if
null is listed, the disjunction keeps them and the list does not. -/
theorem listed_keeps_iff {column : Column} {first : Value}
    {others : List Value} {listed : Predicate}
    (accepted : column.inList (first :: others) = .ok listed) :
    ∃ disjunction, column.equalsEither first others = .ok disjunction ∧
      ∀ (comparing : Comparing) (row : String → Datum),
        (¬(row column.name = .null ∧ .null ∈ first :: others) →
          (listed.Keeps comparing row ↔ disjunction.Keeps comparing row)) ∧
        (row column.name = .null → .null ∈ first :: others →
          disjunction.Keeps comparing row ∧
            ¬listed.Keeps comparing row) := by
  obtain ⟨-, takes, rfl⟩ := inList_eq_ok_iff.mp accepted
  refine ⟨_, equalsEither_eq_ok takes, ?_⟩
  intro comparing row
  have disjunctionKeeps :
      (others.foldl
          (fun disjunction operand => Predicate.either disjunction
            (.compare column.table column.name .eq operand))
          (.compare column.table column.name .eq first)).Keeps comparing row ↔
        ∃ operand ∈ first :: others,
          operand = .null ∧ row column.name = .null ∨
            comparing.test "=" (row column.name) operand.toDatum = .yes := by
    rw [Predicate.keeps_foldl_either_iff]
    simp only [Predicate.keeps_equality_iff, List.mem_cons, exists_eq_or_imp]
  rw [disjunctionKeeps, Predicate.keeps_among_iff]
  constructor
  · intro noNulls
    constructor
    · rintro ⟨operand, member, equal⟩
      exact ⟨operand, member, .inr equal⟩
    · rintro ⟨operand, member, ⟨rfl, cellNull⟩ | equal⟩
      · exact (noNulls ⟨cellNull, member⟩).elim
      · exact ⟨operand, member, equal⟩
  · intro cellNull nullListed
    refine ⟨⟨.null, nullListed, .inl ⟨rfl, cellNull⟩⟩, ?_⟩
    rintro ⟨operand, -, equal⟩
    exact (Comparing.equal_iff.mp equal).1 cellNull

/-- A list with a null among its elements, on a row with a name and on one
without. -/
theorem listed_keeps_iff_names :
    let column := (Field.ofType "name" (.optional .string)).column "people"
    let operands := [Value.text "Ada", .null]
    ∃ listed disjunction,
      column.inList operands = .ok listed ∧
        column.equalsEither (.text "Ada") [.null] = .ok disjunction ∧
        disjunction.sql = "(name = ? OR name IS ?)" ∧
        ∀ comparing : Comparing,
          (listed.Keeps comparing (fun _ => .text "Ada") ↔
            disjunction.Keeps comparing (fun _ => .text "Ada")) ∧
          disjunction.Keeps comparing (fun _ => .null) ∧
            ¬listed.Keeps comparing (fun _ => .null) := by
  intro column operands
  have accepted : column.inList operands =
      .ok (.among "people" "name" operands) := rfl
  obtain ⟨disjunction, combined, selects⟩ := listed_keeps_iff accepted
  refine ⟨_, disjunction, accepted, combined, ?_, ?_⟩
  · cases combined
    decide
  · intro comparing
    refine ⟨(selects comparing _).1 ?_, (selects comparing _).2 rfl ?_⟩
    · rintro ⟨absurd, -⟩
      cases absurd
    · simp

/-- A list of nothing but null selects no row at all, while the equality with
null selects the rows without a value. -/
theorem listed_null_keeps_nothing :
    let column := (Field.ofType "name" (.optional .string)).column "people"
    ∃ listed equality,
      column.inList [.null] = .ok listed ∧
        column.equalsEither .null [] = .ok equality ∧
        listed.sql = "name IN (?)" ∧ equality.sql = "name IS ?" ∧
        ∀ comparing : Comparing,
          equality.Keeps comparing (fun _ => .null) ∧
            ¬listed.Keeps comparing (fun _ => .null) := by
  refine ⟨_, _, rfl, rfl, by decide, by decide, ?_⟩
  intro comparing
  rw [Predicate.keeps_equality_iff, Predicate.keeps_among_iff]
  refine ⟨.inl ⟨rfl, rfl⟩, ?_⟩
  rintro ⟨operand, -, equal⟩
  exact (Comparing.equal_iff.mp equal).1 rfl

end Column

end TypedSql
