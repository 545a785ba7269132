import TypedSql.Proofs.Schema.QuotedReading
import TypedSql.Proofs.Statement.Passage

/-!
# Reading conditions back

A condition is written with parentheses around every combination, and a
placeholder for every operand.  The reader takes the text and the operands apart
again, a leaf or a combination at a time.  It accepts just what is written over
names that end at the first space and do not begin like a combination, so text
and operands together determine the tree, apart from the tables of its leaves.
-/

namespace TypedSql

/-- Reads a comparison with an operand. -/
def Comparison.read? (operand : Value) (text : List Char) :
    Option (Comparison × List Char) :=
  [Comparison.eq, .ne, .lt, .le, .gt, .ge].findSome? fun comparison =>
    (skipPiece? (" " ++ Predicate.relation comparison operand ++ " ?")
      text).map fun rest => (comparison, rest)

theorem Comparison.read?_eq_some_iff {operand : Value}
    {text rest : List Char} {comparison : Comparison} :
    read? operand text = some (comparison, rest) ↔
      text =
        (" " ++ Predicate.relation comparison operand ++ " ?").toList ++
          rest := by
  constructor
  · intro read
    obtain ⟨found, -, skipped⟩ := List.exists_of_findSome?_eq_some read
    obtain ⟨behind, written, same⟩ := Option.map_eq_some_iff.mp skipped
    cases same
    exact skipPiece?_eq_some_iff.mp written
  · rintro rfl
    unfold read? Predicate.relation
    cases comparison <;> cases operand.isNull <;> rfl

namespace Predicate

/-- Reads the placeholders behind one of them, each with its operand, up to the
end of their list. -/
def readMoreOperands? : List Char → List Value →
    Option (List Value × List Char × List Value)
  | ')' :: text, values => some ([], text, values)
  | ',' :: ' ' :: '?' :: text, operand :: values => do
      let (operands, text, values) ← readMoreOperands? text values
      return (operand :: operands, text, values)
  | _, _ => none

/-- Reads a list of placeholders. -/
def readOperands? : List Char → List Value →
    Option (List Value × List Char × List Value)
  | ')' :: text, values => some ([], text, values)
  | '?' :: text, operand :: values => do
      let (operands, text, values) ← readMoreOperands? text values
      return (operand :: operands, text, values)
  | _, _ => none

/-- Reads a comparison or a list behind the name of its column. -/
def readTest? (table column : String) (text : List Char)
    (values : List Value) : Option (Predicate × List Char × List Value) :=
  match skipPiece? " IN (" text, values with
  | some text, values => do
      let (operands, text, values) ← readOperands? text values
      return (.among table column operands, text, values)
  | none, operand :: values => do
      let (comparison, text) ← Comparison.read? operand text
      return (.compare table column comparison operand, text, values)
  | none, [] => none

/-- Reads what combines two conditions. -/
def readCombination? (text : List Char) :
    Option ((Predicate → Predicate → Predicate) × List Char) :=
  match skipPiece? " AND " text with
  | some text => some (.both, text)
  | none => (skipPiece? " OR " text).map fun text => (.either, text)

/-- Reads a condition in front of the rest of a text.  The depth of the tree is
limited by the fuel. -/
def readTree? (table : String) : (fuel : Nat) → List Char → List Value →
    Option (Predicate × List Char × List Value)
  | 0, _, _ => none
  | fuel + 1, '(' :: text, values => do
      let (left, text, values) ← readTree? table fuel text values
      let (combine, text) ← readCombination? text
      let (right, text, values) ← readTree? table fuel text values
      let text ← skipPiece? ")" text
      return (combine left right, text, values)
  | _ + 1, text, values =>
      readTest? table (String.ofList (text.takeWhile (· ≠ ' ')))
        (text.dropWhile (· ≠ ' ')) values

/-- Reads a whole text with all its operands as a condition on a table. -/
def read? (table : String) (fragment : Fragment) : Option Predicate :=
  let text := fragment.sql.toList
  match readTree? table text.length text fragment.values with
  | some (predicate, [], []) => some predicate
  | _ => none

/-- The tree with all its leaves on one table. -/
def onTable (table : String) : Predicate → Predicate
  | .compare _ column comparison operand =>
      .compare table column comparison operand
  | .among _ column operands => .among table column operands
  | .both left right => .both (left.onTable table) (right.onTable table)
  | .either left right => .either (left.onTable table) (right.onTable table)

/-- The end of a name can be seen, and its beginning is not taken for a
combination. -/
structure Delimited (name : String) : Prop where
  noSpace : ' ' ∉ name.toList
  noCombination : name.toList.head? ≠ some '('

theorem render_onTable (table : String) (predicate : Predicate) :
    (predicate.onTable table).render = predicate.render := by
  have same : (predicate.onTable table).sql = predicate.sql ∧
      (predicate.onTable table).operands = predicate.operands := by
    induction predicate with
    | compare owner column comparison operand => exact ⟨rfl, rfl⟩
    | among owner column operands => exact ⟨rfl, rfl⟩
    | both left right leftInduction rightInduction =>
        simp [onTable, sql, operands, leftInduction, rightInduction]
    | either left right leftInduction rightInduction =>
        simp [onTable, sql, operands, leftInduction, rightInduction]
  rw [render, render, same.1, same.2]

theorem columns_onTable (table : String) (predicate : Predicate) :
    (predicate.onTable table).columns = predicate.columns := by
  induction predicate with
  | compare owner column comparison operand => rfl
  | among owner column operands => rfl
  | both left right leftInduction rightInduction =>
      rw [onTable, columns, columns, leftInduction, rightInduction]
  | either left right leftInduction rightInduction =>
      rw [onTable, columns, columns, leftInduction, rightInduction]

theorem onTable_onTable (table other : String) (predicate : Predicate) :
    (predicate.onTable other).onTable table = predicate.onTable table := by
  induction predicate with
  | compare owner column comparison operand => rfl
  | among owner column operands => rfl
  | both left right leftInduction rightInduction =>
      rw [onTable, onTable, onTable, leftInduction, rightInduction]
  | either left right leftInduction rightInduction =>
      rw [onTable, onTable, onTable, leftInduction, rightInduction]

/-- A list of marks is read with as many operands. -/
theorem readMoreOperands?_eq_some_iff {text rest : List Char}
    {values operands others : List Value} :
    readMoreOperands? text values = some (operands, rest, others) ↔
      text = operands.flatMap (fun _ => [',', ' ', '?']) ++ ')' :: rest ∧
        values = operands ++ others := by
  constructor
  · intro read
    fun_induction readMoreOperands? text values generalizing operands with
    | case1 text values =>
        cases read
        exact ⟨rfl, rfl⟩
    | case2 text operand values induction =>
        simp only [Option.bind_eq_bind, Option.bind_eq_some_iff] at read
        obtain ⟨⟨more, text, values⟩, found, same⟩ := read
        cases same
        obtain ⟨textWritten, valuesGiven⟩ := induction found
        rw [textWritten, valuesGiven]
        exact ⟨rfl, rfl⟩
    | case3 => cases read
  · rintro ⟨rfl, rfl⟩
    induction operands with
    | nil => rfl
    | cons operand operands induction =>
        simp [readMoreOperands?, induction]

theorem toList_marks (first : Value) (operands : List Value) :
    (", ".intercalate ((first :: operands).map fun _ => "?")).toList =
      '?' :: operands.flatMap fun _ => [',', ' ', '?'] := by
  rw [List.map_cons, toList_intercalate_cons, List.flatMap_map]
  rfl

theorem readOperands?_eq_some_iff {text rest : List Char}
    {values operands others : List Value} :
    readOperands? text values = some (operands, rest, others) ↔
      text =
          (", ".intercalate (operands.map fun _ => "?")).toList ++
            ')' :: rest ∧
        values = operands ++ others := by
  constructor
  · intro read
    unfold readOperands? at read
    split at read
    case h_1 =>
      cases read
      exact ⟨rfl, rfl⟩
    case h_2 =>
      simp only [Option.bind_eq_bind, Option.bind_eq_some_iff] at read
      obtain ⟨⟨more, text, values⟩, found, same⟩ := read
      cases same
      obtain ⟨textWritten, valuesGiven⟩ :=
        readMoreOperands?_eq_some_iff.mp found
      rw [toList_marks, textWritten, valuesGiven]
      exact ⟨rfl, rfl⟩
    case h_3 => cases read
  · rintro ⟨rfl, rfl⟩
    cases operands with
    | nil => rfl
    | cons operand operands =>
        have more :
            readMoreOperands?
                (operands.flatMap (fun _ => [',', ' ', '?']) ++ ')' :: rest)
                (operands ++ others) = some (operands, rest, others) :=
          readMoreOperands?_eq_some_iff.mpr ⟨rfl, rfl⟩
        rw [toList_marks, List.cons_append, List.cons_append, readOperands?,
          more]
        rfl

/-- A leaf on a column of a table. -/
inductive IsTest (table column : String) : Predicate → Prop where
  | compare (comparison : Comparison) (operand : Value) :
      IsTest table column (.compare table column comparison operand)
  | among (operands : List Value) :
      IsTest table column (.among table column operands)

/-- No comparison looks like the beginning of a list. -/
theorem skipPiece?_list_relation (comparison : Comparison) (operand : Value)
    (rest : List Char) :
    skipPiece? " IN ("
        ((" " ++ relation comparison operand ++ " ?").toList ++ rest) =
      none := by
  unfold relation
  cases comparison <;> cases operand.isNull <;> rfl

theorem readTest?_eq_some_iff {table column : String}
    {text rest : List Char} {values others : List Value}
    {predicate : Predicate} :
    readTest? table column text values = some (predicate, rest, others) ↔
      IsTest table column predicate ∧
        column.toList ++ text = predicate.sql.toList ++ rest ∧
        values = predicate.operands ++ others := by
  constructor
  · intro read
    unfold readTest? at read
    split at read
    case h_1 text' _ listed =>
      simp only [Option.bind_eq_bind, Option.bind_eq_some_iff] at read
      obtain ⟨⟨operands, text, values⟩, found, same⟩ := read
      cases same
      obtain ⟨textWritten, valuesGiven⟩ := readOperands?_eq_some_iff.mp found
      rw [skipPiece?_eq_some_iff.mp listed, textWritten]
      refine ⟨.among operands, ?_, valuesGiven⟩
      simp [sql]
    case h_2 operand values _ =>
      simp only [Option.bind_eq_bind, Option.bind_eq_some_iff] at read
      obtain ⟨⟨comparison, text⟩, found, same⟩ := read
      cases same
      rw [Comparison.read?_eq_some_iff.mp found]
      refine ⟨.compare comparison operand, ?_, rfl⟩
      simp [sql]
    case h_3 => cases read
  · rintro ⟨test, written, rfl⟩
    cases test with
    | compare comparison operand =>
        have behind :
            text =
              (" " ++ relation comparison operand ++ " ?").toList ++ rest := by
          apply (List.append_right_inj column.toList).mp
          simpa [sql] using written
        have found : Comparison.read? operand text = some (comparison, rest) :=
          Comparison.read?_eq_some_iff.mpr behind
        have noList : skipPiece? " IN (" text = none := by
          rw [behind, skipPiece?_list_relation]
        simp [readTest?, noList, operands, found]
    | among operands =>
        have behind :
            text =
              " IN (".toList ++
                ((", ".intercalate (operands.map fun _ => "?")).toList ++
                  ')' :: rest) := by
          apply (List.append_right_inj column.toList).mp
          simpa [sql] using written
        have listed := skipPiece?_eq_some_iff.mpr behind
        have found :
            readOperands?
                ((", ".intercalate (operands.map fun _ => "?")).toList ++
                  ')' :: rest) (operands ++ others) =
              some (operands, rest, others) :=
          readOperands?_eq_some_iff.mpr ⟨rfl, rfl⟩
        simp only [readTest?, listed, Predicate.operands, found]
        rfl

/-- The two ways to combine conditions, with what is written between them. -/
inductive Joins : (Predicate → Predicate → Predicate) → String → Prop where
  | both : Joins .both " AND "
  | either : Joins .either " OR "

theorem readCombination?_eq_some_iff {text rest : List Char}
    {combine : Predicate → Predicate → Predicate} :
    readCombination? text = some (combine, rest) ↔
      ∃ connective, Joins combine connective ∧
        text = connective.toList ++ rest := by
  constructor
  · intro read
    unfold readCombination? at read
    split at read
    case h_1 conjoined =>
      cases read
      exact ⟨_, .both, skipPiece?_eq_some_iff.mp conjoined⟩
    case h_2 =>
      obtain ⟨behind, disjoined, same⟩ := Option.map_eq_some_iff.mp read
      cases same
      exact ⟨_, .either, skipPiece?_eq_some_iff.mp disjoined⟩
  · rintro ⟨connective, joins, rfl⟩
    cases joins <;> rfl

/-- A condition on a table over delimited names stands, with its operands, in
front of the rest of a text and of its values. -/
structure Begins (table : String) (predicate : Predicate)
    (text rest : List Char) (values others : List Value) : Prop where
  text_eq : text = predicate.sql.toList ++ rest
  values_eq : values = predicate.operands ++ others
  onTable_eq : predicate.onTable table = predicate
  delimited : ∀ name ∈ predicate.columns, Delimited name

section

variable {table : String} {fuel : Nat} {text rest : List Char}
  {values others : List Value} {predicate : Predicate}

/-- A combination is written with parentheses around its parts, one after the
other. -/
theorem begins_combined_iff {combine : Predicate → Predicate → Predicate}
    {connective : String} (joins : Joins combine connective)
    {left right : Predicate} :
    (combine left right).Begins table text rest values others ↔
      ∃ behind between middle, text = '(' :: behind ∧
        left.Begins table behind (connective.toList ++ between) values
          middle ∧
        right.Begins table between (')' :: rest) middle others := by
  constructor
  · rintro ⟨rfl, rfl, own, delimited⟩
    cases joins with
    | both | either =>
        obtain ⟨leftOwn, rightOwn⟩ := by simpa [onTable] using own
        obtain ⟨leftDelimited, rightDelimited⟩ :=
          List.forall_mem_append.mp delimited
        refine ⟨_, right.sql.toList ++ ')' :: rest, right.operands ++ others,
          ?_, ⟨rfl, ?_, leftOwn, leftDelimited⟩,
          ⟨rfl, rfl, rightOwn, rightDelimited⟩⟩
        · simp [sql]
        · simp [operands]
  · rintro ⟨behind, between, middle, rfl, leftBegins, rightBegins⟩
    cases joins with
    | both | either =>
        constructor
        case text_eq =>
          simp [sql, leftBegins.text_eq, rightBegins.text_eq]
        case values_eq =>
          simp [operands, leftBegins.values_eq, rightBegins.values_eq]
        case onTable_eq =>
          rw [onTable, leftBegins.onTable_eq, rightBegins.onTable_eq]
        case delimited =>
          exact List.forall_mem_append.mpr
            ⟨leftBegins.delimited, rightBegins.delimited⟩

theorem readTree?_test (noCombination : text.head? ≠ some '(') :
    readTree? table (fuel + 1) text values =
      readTest? table (String.ofList (text.takeWhile (· ≠ ' ')))
        (text.dropWhile (· ≠ ' ')) values := by
  rw [readTree?]
  rintro behind rfl
  exact noCombination rfl

theorem delimited_takeWhile (noCombination : text.head? ≠ some '(') :
    Delimited (String.ofList (text.takeWhile (· ≠ ' '))) := by
  constructor
  case noSpace =>
    intro member
    rw [String.toList_ofList] at member
    simpa using List.all_eq_true.mp List.all_takeWhile _ member
  case noCombination =>
    rw [String.toList_ofList, List.head?_takeWhile]
    intro found
    exact noCombination (Option.filter_eq_some_iff.mp found).1

/-- What is read is what was written. -/
theorem begins_of_readTree?
    (read : readTree? table fuel text values =
      some (predicate, rest, others)) :
    predicate.Begins table text rest values others := by
  induction fuel generalizing text rest values others predicate with
  | zero => cases read
  | succ fuel induction =>
      by_cases combination : text.head? = some '('
      · obtain ⟨text, rfl⟩ := List.head?_eq_some_iff.mp combination
        rw [readTree?] at read
        simp only [Option.bind_eq_bind, Option.bind_eq_some_iff] at read
        obtain ⟨⟨left, afterLeft, middle⟩, leftRead, ⟨combine, between⟩,
          combined, ⟨right, afterRight, others⟩, rightRead, behind, closed,
          same⟩ := read
        cases same
        dsimp only at combined rightRead closed
        obtain ⟨connective, joins, rfl⟩ :=
          readCombination?_eq_some_iff.mp combined
        have rightBegins := induction rightRead
        rw [skipPiece?_eq_some_iff.mp closed] at rightBegins
        exact (begins_combined_iff joins).mpr
          ⟨text, between, middle, rfl, induction leftRead, rightBegins⟩
      · rw [readTree?_test combination] at read
        obtain ⟨test, written, given⟩ := readTest?_eq_some_iff.mp read
        rw [String.toList_ofList, List.takeWhile_append_dropWhile] at written
        have delimited := delimited_takeWhile combination
        cases test with
        | compare | among =>
            exact ⟨written, given, rfl, List.forall_mem_singleton.mpr delimited⟩

theorem split_delimited {name : String} (delimited : Delimited name)
    (behind : List Char) :
    let text := name.toList ++ ' ' :: behind
    text.head? ≠ some '(' ∧ text.takeWhile (· ≠ ' ') = name.toList ∧
      text.dropWhile (· ≠ ' ') = ' ' :: behind := by
  have solid : ∀ character ∈ name.toList,
      decide (character ≠ ' ') = true := by
    intro character member
    apply decide_eq_true
    rintro rfl
    exact delimited.noSpace member
  refine ⟨?_, ?_, ?_⟩
  · have begins := delimited.noCombination
    cases characters : name.toList with
    | nil => simp
    | cons first others => simpa [characters] using begins
  · rw [List.takeWhile_append_of_pos solid]
    simp
  · rw [List.dropWhile_append_of_pos solid]
    simp

end

/-- With fuel for every character, the condition is read wherever it is
written. -/
def IsRead (table : String) (predicate : Predicate) : Prop :=
  ∀ {fuel : Nat} {text rest : List Char} {values others : List Value},
    text.length ≤ fuel → predicate.Begins table text rest values others →
    readTree? table fuel text values = some (predicate, rest, others)

theorem IsTest.isRead {table column : String} {predicate : Predicate}
    (test : IsTest table column predicate)
    (columns_eq : predicate.columns = [column]) : predicate.IsRead table := by
  intro fuel text rest values others enough begins
  obtain ⟨behind, layout⟩ : ∃ behind,
      predicate.sql.toList ++ rest = column.toList ++ ' ' :: behind := by
    cases test with
    | compare | among => simp [sql]
  obtain ⟨rfl, rfl, -, delimited⟩ := begins
  rw [columns_eq] at delimited
  obtain ⟨noCombination, nameTaken, nameDropped⟩ :=
    split_delimited (delimited column List.mem_cons_self) behind
  rw [layout] at enough ⊢
  cases fuel with
  | zero => simp at enough
  | succ fuel =>
      rw [readTree?_test noCombination, nameTaken, nameDropped,
        String.ofList_toList]
      exact readTest?_eq_some_iff.mpr ⟨test, layout.symm, rfl⟩

theorem IsRead.combined {table connective : String}
    {combine : Predicate → Predicate → Predicate}
    (joins : Joins combine connective) {left right : Predicate}
    (leftIsRead : left.IsRead table) (rightIsRead : right.IsRead table) :
    (combine left right).IsRead table := by
  intro fuel text rest values others enough begins
  obtain ⟨behind, between, middle, rfl, leftBegins, rightBegins⟩ :=
    (begins_combined_iff joins).mp begins
  cases fuel with
  | zero => simp at enough
  | succ fuel =>
      have enoughLeft : behind.length ≤ fuel := Nat.le_of_succ_le_succ enough
      have enoughRight : between.length ≤ fuel := by
        rw [leftBegins.text_eq] at enoughLeft
        simp only [List.length_append] at enoughLeft
        omega
      have combined :
          readCombination? (connective.toList ++ between) =
            some (combine, between) :=
        readCombination?_eq_some_iff.mpr ⟨connective, joins, rfl⟩
      have closed : skipPiece? ")" (')' :: rest) = some rest :=
        skipPiece?_eq_some_iff.mpr rfl
      simp [readTree?, leftIsRead enoughLeft leftBegins, combined,
        rightIsRead enoughRight rightBegins, closed]

theorem isRead {table : String} {predicate : Predicate}
    (own : predicate.onTable table = predicate) :
    predicate.IsRead table := by
  induction predicate with
  | compare owner column comparison operand =>
      cases own
      exact (IsTest.compare comparison operand).isRead rfl
  | among owner column operands =>
      cases own
      exact (IsTest.among operands).isRead rfl
  | both left right leftInduction rightInduction =>
      obtain ⟨leftOwn, rightOwn⟩ := by simpa [onTable] using own
      exact IsRead.combined .both (leftInduction leftOwn)
        (rightInduction rightOwn)
  | either left right leftInduction rightInduction =>
      obtain ⟨leftOwn, rightOwn⟩ := by simpa [onTable] using own
      exact IsRead.combined .either (leftInduction leftOwn)
        (rightInduction rightOwn)

/-- The reader accepts exactly what is written for conditions on the table over
delimited names. -/
theorem read?_eq_some_iff {table : String} {fragment : Fragment}
    {predicate : Predicate} :
    read? table fragment = some predicate ↔
      predicate.render = fragment ∧ predicate.onTable table = predicate ∧
        ∀ name ∈ predicate.columns, Delimited name := by
  constructor
  · intro read
    unfold read? at read
    dsimp only at read
    split at read
    case h_1 found =>
      cases read
      obtain ⟨textWritten, given, own, delimited⟩ := begins_of_readTree? found
      rw [List.append_nil] at textWritten given
      refine ⟨?_, own, delimited⟩
      rw [render, ← given, ← String.toList_inj.mp textWritten]
    case h_2 => cases read
  · rintro ⟨rfl, own, delimited⟩
    have begins : predicate.Begins table predicate.sql.toList []
        predicate.operands [] :=
      ⟨by simp, by simp, own, delimited⟩
    have found := isRead own (Nat.le_refl _) begins
    simp [read?, render, found]

/-- Text and operands of a condition determine its tree, with all columns,
comparisons and operands in their places.  Only the tables of the leaves do not
show: the reader puts all on the one it is told. -/
theorem tree_determined_by_render {first second : Predicate}
    (firstDelimited : ∀ name ∈ first.columns, Delimited name)
    (secondDelimited : ∀ name ∈ second.columns, Delimited name) :
    (∀ table, read? table first.render = some (first.onTable table)) ∧
      (first.render = second.render ↔
        ∀ table, first.onTable table = second.onTable table) := by
  have readBack : ∀ {predicate : Predicate},
      (∀ name ∈ predicate.columns, Delimited name) → ∀ table,
        read? table predicate.render = some (predicate.onTable table) := by
    intro predicate delimited table
    rw [read?_eq_some_iff, columns_onTable]
    exact ⟨render_onTable table predicate, onTable_onTable _ _ _, delimited⟩
  refine ⟨readBack firstDelimited, ?_, ?_⟩
  · intro sameRender table
    have firstRead := readBack firstDelimited table
    rw [sameRender, readBack secondDelimited table] at firstRead
    exact (Option.some.inj firstRead).symm
  · intro sameTree
    rw [← render_onTable "" first, sameTree "", render_onTable]

/-- Columns that are called like keywords, and a null, on either of two
tables. -/
theorem tree_determined_by_render_keywords :
    let condition (table : String) : Predicate :=
      .either
        (.both (.compare table "IN" .eq (.integer 1))
          (.among table "?" [.text "AND", .null]))
        (.compare table "OR" .eq .null)
    (condition "people").render.sql =
        "((IN = ? AND ? IN (?, ?)) OR OR IS ?)" ∧
      (∀ table, ∀ name ∈ (condition table).columns, Delimited name) ∧
      read? "pets" (condition "people").render = some (condition "pets") ∧
      ((condition "people").render = (condition "pets").render ↔
        ∀ table, (condition "people").onTable table =
          (condition "pets").onTable table) := by
  intro condition
  have delimited : ∀ table, ∀ name ∈ (condition table).columns,
      Delimited name := by
    intro table name member
    simp only [condition, columns, List.mem_append, List.mem_singleton]
      at member
    rcases member with (rfl | rfl) | rfl <;> exact ⟨by decide, by decide⟩
  obtain ⟨readBack, sameRender⟩ :=
    tree_determined_by_render (delimited "people") (delimited "pets")
  exact ⟨by decide, delimited, readBack "pets", sameRender⟩

end Predicate

end TypedSql
