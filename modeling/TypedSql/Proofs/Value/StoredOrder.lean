import TypedSql.Expression.Predicate
import TypedSql.Proofs.Calendar.TextOrder

/-!
# Order of stored values

Where values are stored as texts, the storage engine compares, sorts and
chooses among them by the bytes of the texts.  What it finds out is true of the
values themselves where the texts are in the order of the values; instants and
dates are such in the years that are written with four digits.
-/

namespace TypedSql

/-- Whether a comparison holds between two values in an order. -/
def Comparison.admits : Comparison → Ordering → Bool
  | .eq => Ordering.isEq
  | .ne => Ordering.isNe
  | .lt => Ordering.isLT
  | .le => Ordering.isLE
  | .gt => Ordering.isGT
  | .ge => Ordering.isGE

/-- Every element is related to all behind it.  A list sorted upwards is
arranged by `≤`, and one sorted downwards by `≥`. -/
def Comparison.Arranges {Element : Type} (comparison : Comparison)
    (order : Element → Element → Ordering) (elements : List Element) : Prop :=
  elements.Pairwise fun left right => comparison.admits (order left right)

/-- The element is one of the list and related to all of it: its least element
under `≤`, and its greatest under `≥`. -/
def Comparison.Chooses {Element : Type} (comparison : Comparison)
    (order : Element → Element → Ordering) (elements : List Element)
    (found : Element) : Prop :=
  found ∈ elements ∧
    ∀ element ∈ elements, comparison.admits (order found element)

/-- The elements of a host type within a range are stored as texts that stand
in the order of the elements.  What the engine finds out by comparing, sorting
or choosing among stored texts is then true of the elements. -/
structure Scalar.OrderedByText (scalar : Scalar)
    (within : scalar.Carrier → Prop)
    (order : scalar.Carrier → scalar.Carrier → Ordering)
    (text : scalar.Carrier → String) : Prop where
  stored : ∀ element, (scalar.toValue element).toDatum = .text (text element)
  lt_iff : ∀ left right, within left → within right →
    (order left right = .lt ↔ bytewise (text left) (text right) = .lt)
  eq_of_text_eq : ∀ left right, within left → within right →
    text left = text right → left = right
  compared : ∀ (column : Column) (comparison : Comparison) (row operand),
    column.kind = scalar.kind → column.aggregation = .plain →
    within row → within operand →
    ∃ predicate,
      column.compare comparison (scalar.toValue operand) = .ok predicate ∧
      predicate.sql = column.name ++ " " ++ comparison.symbol ++ " ?" ∧
      predicate.operands.map Value.toDatum = [.text (text operand)] ∧
      comparison.admits (bytewise (text row) (text operand)) =
        comparison.admits (order row operand)
  sorted : ∀ (comparison : Comparison) (elements : List scalar.Carrier),
    (∀ element ∈ elements, within element) →
    (comparison.Arranges bytewise (elements.map text) ↔
      comparison.Arranges order elements)
  chosen : ∀ (comparison : Comparison) (elements : List scalar.Carrier),
    (∀ element ∈ elements, within element) → ∀ found,
    comparison.Chooses bytewise (elements.map text) found ↔
      ∃ element, text element = found ∧
        comparison.Chooses order elements element

theorem Predicate.relation_of_present (comparison : Comparison)
    {operand : Value} (present : operand.isNull = false) :
    relation comparison operand = comparison.symbol := by
  unfold relation
  rw [present]
  cases comparison <;> rfl

/-- A plain column accepts the elements of host types of its own kind. -/
theorem Column.compare_element {scalar : Scalar} {column : Column}
    (ofKind : column.kind = scalar.kind) (plain : column.aggregation = .plain)
    (comparison : Comparison) (element : scalar.Carrier) :
    column.compare comparison (scalar.toValue element) =
      .ok (.compare column.table column.name comparison
        (scalar.toValue element)) := by
  have noAggregate : column.requirePlain = .ok () := by
    unfold requirePlain aggregate?
    rw [plain]
    rfl
  have accepted : column.checkOperand (scalar.toValue element) = .ok () := by
    apply if_pos
    unfold accepts
    rw [scalar.kind?_toValue]
    exact decide_eq_true ofKind.symm
  unfold compare
  rw [noAggregate, accepted]
  rfl

/-- It is enough that the order of any two texts is that of the elements, and
that only equal elements are level in their order. -/
theorem Scalar.orderedByText {scalar : Scalar}
    {within : scalar.Carrier → Prop}
    {order : scalar.Carrier → scalar.Carrier → Ordering}
    {text : scalar.Carrier → String}
    (stored : ∀ element,
      (scalar.toValue element).toDatum = .text (text element))
    (agree : ∀ left right, within left → within right →
      bytewise (text left) (text right) = order left right)
    (separated : ∀ left right, order left right = .eq → left = right) :
    scalar.OrderedByText within order text := by
  constructor
  case stored => exact stored
  case lt_iff =>
    intro left right leftWithin rightWithin
    rw [agree left right leftWithin rightWithin]
  case eq_of_text_eq =>
    intro left right leftWithin rightWithin sameText
    apply separated
    rw [← agree left right leftWithin rightWithin, sameText]
    exact Std.ReflOrd.compare_self
  case compared =>
    intro column comparison row operand ofKind plain rowWithin operandWithin
    refine ⟨_, Column.compare_element ofKind plain comparison operand, ?_, ?_,
      ?_⟩
    · rw [Predicate.sql,
        Predicate.relation_of_present _ (scalar.isNull_toValue operand)]
    · exact congrArg (fun datum => [datum]) (stored operand)
    · rw [agree row operand rowWithin operandWithin]
  case sorted =>
    intro comparison elements allWithin
    unfold Comparison.Arranges
    rw [List.pairwise_map]
    apply List.Pairwise.iff_of_mem
    intro left right leftMember rightMember
    rw [agree left right (allWithin left leftMember)
      (allWithin right rightMember)]
  case chosen =>
    intro comparison elements allWithin found
    constructor
    · rintro ⟨member, related⟩
      obtain ⟨element, elementMember, rfl⟩ := List.mem_map.mp member
      refine ⟨element, rfl, elementMember, ?_⟩
      intro other otherMember
      rw [← agree element other (allWithin element elementMember)
        (allWithin other otherMember)]
      exact related _ (List.mem_map_of_mem otherMember)
    · rintro ⟨element, rfl, elementMember, related⟩
      refine ⟨List.mem_map_of_mem elementMember, ?_⟩
      intro otherText member
      obtain ⟨other, otherMember, rfl⟩ := List.mem_map.mp member
      rw [agree element other (allWithin element elementMember)
        (allWithin other otherMember)]
      exact related other otherMember

/-- The text order of stored instants and dates is their order in time. -/
theorem stored_order_chronological :
    Scalar.timestamp.OrderedByText (fun instant => instant.date.HasPlainYear)
        Instant.chronological Instant.text ∧
      Scalar.date.OrderedByText Date.HasPlainYear Date.chronological
        Date.text := by
  constructor
  · apply Scalar.orderedByText
    · intro instant
      rfl
    · intro left right leftPlain rightPlain
      exact Instant.bytewise_text leftPlain rightPlain
    · intro left right level
      exact Instant.eq_of_chronological level
  · apply Scalar.orderedByText
    · intro date
      rfl
    · intro left right leftPlain rightPlain
      exact Date.bytewise_text leftPlain rightPlain
    · intro left right level
      exact Date.eq_of_chronological level

/-- The last fraction of an ordinary second before a leap second. -/
def beforeLeapSecond : Instant :=
  { date := ⟨2016, 12, 31, by decide⟩
    time := ⟨86399, 999999999, by decide, by decide, by decide⟩ }

def leapSecond : Instant :=
  { date := ⟨2016, 12, 31, by decide⟩
    time := ⟨86399, 1000000000, by decide, by decide, by decide⟩ }

/-- Of these two texts the one without a fraction is the later one. -/
theorem stored_order_leap_second :
    beforeLeapSecond.text = "2016-12-31T23:59:59.999999999+00:00" ∧
      leapSecond.text = "2016-12-31T23:59:60+00:00" ∧
      beforeLeapSecond.chronological leapSecond = .lt ∧
      bytewise beforeLeapSecond.text leapSecond.text = .lt := by
  have before : beforeLeapSecond.chronological leapSecond = .lt := by decide
  have plain (instant : Instant) (year : instant.date.year = 2016) :
      instant.date.HasPlainYear := by
    constructor
    · rw [year]
      decide
    · rw [year]
      decide
  refine ⟨by decide, by decide, before, ?_⟩
  exact (stored_order_chronological.1.lt_iff _ _ (plain _ rfl)
    (plain _ rfl)).mp before

end TypedSql
