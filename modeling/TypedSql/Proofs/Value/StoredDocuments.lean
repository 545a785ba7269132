import TypedSql.Proofs.Expression.OperandChecks
import TypedSql.Proofs.Json.RoundTrip
import TypedSql.Proofs.Value.StoredOrder
import TypedSql.Value.Decoding

/-!
# Stored documents

A document is stored as its text.  Up to the limit of nesting it is decoded from
it, and so the storage engine, which looks at nothing but texts, tells documents
apart.
-/

namespace TypedSql

theorem bytewise_eq_iff {left right : String} :
    bytewise left right = .eq ↔ left = right := by
  unfold bytewise bytesOf
  rw [Std.compare_eq_iff_eq]
  constructor
  · intro same
    apply String.toByteArray_inj.mp
    exact ByteArray.ext (Array.toList_inj.mp same)
  · rintro rfl
    rfl

/-- The elements of a host type within a range are stored as different texts.
What the engine finds equal, different or among others is then so of the
elements. -/
structure Scalar.EqualByText (scalar : Scalar)
    (within : scalar.Carrier → Prop) (text : scalar.Carrier → String) :
    Prop where
  stored : ∀ element, (scalar.toValue element).toDatum = .text (text element)
  eq_of_text_eq : ∀ left right, within left → within right →
    text left = text right → left = right
  compared : ∀ (column : Column) (comparison : Comparison) (row operand),
    column.kind = scalar.kind → column.aggregation = .plain →
    within row → within operand →
    ∃ predicate,
      column.compare comparison (scalar.toValue operand) = .ok predicate ∧
      predicate.sql = column.name ++ " " ++ comparison.symbol ++ " ?" ∧
      predicate.operands.map Value.toDatum = [.text (text operand)] ∧
      (comparison = .eq →
        (comparison.admits (bytewise (text row) (text operand)) = true ↔
          row = operand)) ∧
      (comparison = .ne →
        (comparison.admits (bytewise (text row) (text operand)) = true ↔
          row ≠ operand))
  listed : ∀ (column : Column) (row : scalar.Carrier)
      (operands : List scalar.Carrier),
    column.kind = scalar.kind → column.aggregation = .plain →
    within row → operands ≠ [] → (∀ operand ∈ operands, within operand) →
    ∃ predicate,
      column.inList (operands.map scalar.toValue) = .ok predicate ∧
      predicate.sql =
        column.name ++ " IN (" ++
          ", ".intercalate (operands.map fun _ => "?") ++ ")" ∧
      predicate.operands.map Value.toDatum =
        operands.map (fun operand => .text (text operand)) ∧
      ((∃ operand ∈ operands,
        Comparison.eq.admits (bytewise (text row) (text operand)) = true) ↔
          row ∈ operands)

/-- It is enough that different elements have different texts. -/
theorem Scalar.equalByText {scalar : Scalar} {within : scalar.Carrier → Prop}
    {text : scalar.Carrier → String}
    (stored : ∀ element,
      (scalar.toValue element).toDatum = .text (text element))
    (separated : ∀ left right, within left → within right →
      text left = text right → left = right) :
    scalar.EqualByText within text := by
  have level : ∀ row operand, within row → within operand →
      (bytewise (text row) (text operand) = .eq ↔ row = operand) := by
    intro row operand rowWithin operandWithin
    rw [bytewise_eq_iff]
    constructor
    · exact separated row operand rowWithin operandWithin
    · exact congrArg text
  constructor
  case stored => exact stored
  case eq_of_text_eq => exact separated
  case compared =>
    intro column comparison row operand ofKind plain rowWithin operandWithin
    refine ⟨_, Column.compare_element ofKind plain comparison operand, ?_, ?_,
      ?_, ?_⟩
    · rw [Predicate.sql,
        Predicate.relation_of_present _ (scalar.isNull_toValue operand)]
    · exact congrArg (fun datum => [datum]) (stored operand)
    · rintro rfl
      rw [← level row operand rowWithin operandWithin]
      exact Ordering.isEq_iff_eq_eq
    · rintro rfl
      rw [Ne, ← level row operand rowWithin operandWithin]
      exact Ordering.isNe_iff_ne_eq
  case listed =>
    intro column row operands ofKind plain rowWithin nonempty allWithin
    have takes : ∀ operand ∈ operands.map scalar.toValue,
        column.Takes operand := by
      refine List.forall_mem_map.mpr ?_
      intro operand _
      exact ⟨plain, .inl (by rw [scalar.kind?_toValue, ofKind])⟩
    have values : operands.map scalar.toValue ≠ [] := by
      simpa using nonempty
    refine ⟨_, Column.inList_eq_ok_iff.mpr ⟨values, takes, rfl⟩, ?_, ?_, ?_⟩
    · rw [Predicate.sql, List.map_map]
      rfl
    · rw [Predicate.operands, List.map_map]
      exact List.map_congr_left fun operand _ => stored operand
    · constructor
      · rintro ⟨operand, member, admitted⟩
        have same := (level row operand rowWithin (allWithin operand member)).mp
          (Ordering.isEq_iff_eq_eq.mp admitted)
        rw [same]
        exact member
      · intro member
        refine ⟨row, member, Ordering.isEq_iff_eq_eq.mpr ?_⟩
        exact (level row row rowWithin rowWithin).mpr rfl

/-- The document has no rounded number, and is nested within the limit. -/
structure Json.Document.Readable (document : Json.Document) : Prop where
  exact : document.tree.Exact
  within : document.tree.depth ≤ 127

/-- Documents without rounded numbers are decoded from their stored texts, as
from the bytes of these, up to 127 levels of nesting and not beyond.  Up to
there the stored texts are told apart just as the documents are. -/
theorem stored_documents_read_back :
    (∀ document : Json.Document, document.tree.Exact →
      (document.tree.depth ≤ 127 →
        Scalar.json.ofValue
            (.ofDatum (Scalar.json.toValue document).toDatum) = .ok document ∧
          Scalar.json.ofValue (.bytes document.text.toUTF8) =
            .ok document) ∧
      (128 ≤ document.tree.depth → ∃ place,
        Scalar.json.ofValue
            (.ofDatum (Scalar.json.toValue document).toDatum) =
          .error (.unreadableJson { fault := .tooDeep, place := place }) ∧
        Scalar.json.ofValue (.bytes document.text.toUTF8) =
          .error (.unreadableJson { fault := .tooDeep, place := place }))) ∧
    Scalar.json.EqualByText Json.Document.Readable Json.Document.text := by
  constructor
  · intro document exact
    have limit : Json.depthLimit = 127 := rfl
    have read := Json.Document.ofText_text exact
    rw [limit] at read
    have ofText : Scalar.json.ofValue
        (.ofDatum (Scalar.json.toValue document).toDatum) =
          (Json.Document.ofText document.text).mapError .unreadableJson := rfl
    have ofBytes : Scalar.json.ofValue (.bytes document.text.toUTF8) =
        (Json.Document.ofText document.text).mapError .unreadableJson := by
      rw [← Json.Document.ofBytes_toUTF8]
      rfl
    rw [ofText, ofBytes]
    constructor
    · intro within
      rw [if_pos within] at read
      rw [read]
      exact ⟨rfl, rfl⟩
    · intro beyond
      rw [if_neg (Nat.not_le.mpr beyond)] at read
      obtain ⟨place, failed⟩ := read
      rw [failed]
      exact ⟨place, rfl, rfl⟩
  · apply Scalar.equalByText
    · intro document
      rfl
    · intro left right leftReadable rightReadable sameText
      exact Json.Document.eq_of_text_eq leftReadable.exact leftReadable.within
        rightReadable.exact rightReadable.within sameText

/-- Arrays around a null, each around the next, with the given depth. -/
def Json.Tree.nested : Nat → Json.Tree
  | 0 => .null
  | levels + 1 => .array [nested levels]

namespace Json.Tree

theorem depth_nested (levels : Nat) : (nested levels).depth = levels := by
  induction levels with
  | zero => rfl
  | succ levels induction =>
      rw [nested, depth, depthOfItems, depthOfItems, induction, Nat.max_zero]

theorem exact_nested (levels : Nat) : (nested levels).Exact := by
  induction levels with
  | zero => trivial
  | succ levels induction => exact ⟨induction, trivial⟩

theorem ordered_nested (levels : Nat) : (nested levels).Ordered := by
  induction levels with
  | zero => trivial
  | succ levels induction => exact ⟨induction, trivial⟩

end Json.Tree

/-- The last depth that is read back, and the first that is not. -/
theorem stored_documents_read_back_nested :
    let nested (levels : Nat) : Json.Document :=
      { tree := Json.Tree.nested levels
        ordered := Json.Tree.ordered_nested levels }
    let column : Column :=
      { table := "people"
        name := "notes"
        kind := .json
        nullable := false
        aggregation := .plain }
    Scalar.json.ofValue (.bytes (nested 127).text.toUTF8) =
        .ok (nested 127) ∧
      (∃ place, Scalar.json.ofValue (.bytes (nested 128).text.toUTF8) =
        .error (.unreadableJson { fault := .tooDeep, place := place })) ∧
      ((nested 1).text = (nested 127).text → nested 1 = nested 127) ∧
      (∃ predicate,
        column.compare .ne (.json (nested 127)) = .ok predicate ∧
          (Comparison.ne.admits
              (bytewise (nested 1).text (nested 127).text) = true ↔
            nested 1 ≠ nested 127)) ∧
      ∃ predicate,
        column.inList [.json (nested 1), .json (nested 127)] = .ok predicate ∧
          ((∃ operand ∈ [nested 1, nested 127], Comparison.eq.admits
              (bytewise (nested 127).text operand.text) = true) ↔
            nested 127 ∈ [nested 1, nested 127]) := by
  intro nested column
  have readable : ∀ levels ≤ 127, (nested levels).Readable := by
    intro levels within
    refine ⟨Json.Tree.exact_nested levels, ?_⟩
    exact Nat.le_trans (Nat.le_of_eq (Json.Tree.depth_nested levels)) within
  have flat := readable 1 (by decide)
  have deep := readable 127 (by decide)
  have tooDeep : 128 ≤ (nested 128).tree.depth :=
    Nat.le_of_eq (Json.Tree.depth_nested 128).symm
  obtain ⟨readBack, told⟩ := stored_documents_read_back
  refine ⟨?_, ?_, ?_, ?_, ?_⟩
  · exact ((readBack (nested 127) deep.exact).1 deep.within).2
  · obtain ⟨place, -, failed⟩ :=
      (readBack (nested 128) (Json.Tree.exact_nested 128)).2 tooDeep
    exact ⟨place, failed⟩
  · exact told.eq_of_text_eq (nested 1) (nested 127) flat deep
  · obtain ⟨predicate, compared, -, -, -, different⟩ :=
      told.compared column .ne (nested 1) (nested 127) rfl rfl flat deep
    exact ⟨predicate, compared, different rfl⟩
  · have both : ∀ operand ∈ [nested 1, nested 127], operand.Readable := by
      simpa using ⟨flat, deep⟩
    obtain ⟨predicate, listed, -, -, among⟩ :=
      told.listed column (nested 127) [nested 1, nested 127] rfl rfl deep
        (List.cons_ne_nil _ _) both
    exact ⟨predicate, listed, among⟩

end TypedSql
