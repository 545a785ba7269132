import TypedSql.Proofs.Json.Sameness
import TypedSql.Proofs.Record.Materialization

/-!
# Applied rows

A row that is no record changes nothing.  Any other row is taken over field by
field: an element stays as it is, bit for bit, if the fresh one differs from it
in nothing but signs of zeros, and is replaced otherwise, a NaN always.  To
apply the row once more changes nothing.
-/

namespace TypedSql

namespace Scalar

/-- Elements that compare equal: the same but for the signs of zeros, and no
NaN. -/
def Agree : (scalar : Scalar) → (left right : scalar.Carrier) → Prop
  | .double, left, right =>
      left.isNaN = false ∧ left.dropZeroSign = right.dropZeroSign
  | .json, left, right => left.tree.dropZeroSigns = right.tree.dropZeroSigns
  | .int64, left, right => left = right
  | .int32, left, right => left = right
  | .boolean, left, right => left = right
  | .string, left, right => left = right
  | .bytes, left, right => left = right
  | .timestamp, left, right => left = right
  | .date, left, right => left = right

/-- An element without floating-point numbers. -/
def RealFree : (scalar : Scalar) → scalar.Carrier → Prop
  | .double, _ => False
  | .json, element => element.tree.Exact
  | _, _ => True

variable {scalar : Scalar} {left right : scalar.Carrier}

theorem same_iff : scalar.same left right = true ↔ scalar.Agree left right := by
  cases scalar with
  | double => exact Binary64.numericEq_iff
  | json => exact Json.Tree.same_iff left.tree right.tree
  | bytes =>
      change (ByteArray.data left == ByteArray.data right) = true ↔ left = right
      exact beq_iff_eq.trans ByteArray.ext_iff.symm
  | int64 | int32 | boolean | string | timestamp | date => exact beq_iff_eq

theorem Agree.eq_of_realFree (agree : scalar.Agree left right)
    (realFree : scalar.RealFree left ∨ scalar.RealFree right) :
    left = right := by
  cases scalar with
  | double => exact (or_self_iff.mp realFree).elim
  | json =>
      obtain ⟨leftTree, leftOrdered⟩ := left
      obtain ⟨rightTree, rightOrdered⟩ := right
      have sameTree : leftTree = rightTree :=
        Json.Tree.eq_of_dropZeroSigns_eq agree realFree
      subst sameTree
      rfl
  | int64 | int32 | boolean | string | bytes | timestamp | date => exact agree

end Scalar

namespace HostType

/-- Elements that are both absent, or compare equal. -/
def Agree : (type : HostType) → (left right : type.Carrier) → Prop
  | .required scalar, left, right => scalar.Agree left right
  | .optional scalar, left, right => Option.Rel scalar.Agree left right

/-- An element without floating-point numbers; the absent one has none. -/
def RealFree : (type : HostType) → type.Carrier → Prop
  | .required scalar, element => scalar.RealFree element
  | .optional scalar, element => ∀ present ∈ element, scalar.RealFree present

variable {type : HostType} {left right : type.Carrier}

theorem same_iff : type.same left right = true ↔ type.Agree left right := by
  cases type with
  | required scalar => exact Scalar.same_iff
  | optional scalar =>
      cases left with
      | none =>
          cases right with
          | none => exact ⟨fun _ => .none, fun _ => rfl⟩
          | some right => exact ⟨nofun, nofun⟩
      | some left =>
          cases right with
          | none => exact ⟨nofun, nofun⟩
          | some right =>
              refine Scalar.same_iff.trans ⟨.some, ?_⟩
              rintro ⟨agree⟩
              exact agree

theorem Agree.eq_of_realFree (agree : type.Agree left right)
    (realFree : type.RealFree left ∨ type.RealFree right) : left = right := by
  cases type with
  | required scalar => exact Scalar.Agree.eq_of_realFree agree realFree
  | optional scalar =>
      cases agree with
      | none => rfl
      | @some left right agree =>
          have elements : scalar.RealFree left ∨ scalar.RealFree right :=
            realFree.imp (· left rfl) (· right rfl)
          exact congrArg some (agree.eq_of_realFree elements)

end HostType

namespace Record

/-- A record without floating-point numbers. -/
def RealFree {fields : List EntityField} (record : Record fields) : Prop :=
  ∀ position, (fields.get position).type.RealFree (record.get position)

variable {fields : List EntityField}

theorem get_update (old fresh : Record fields)
    (position : Fin fields.length) :
    (old.update fresh).get position =
      if (fields.get position).type.same (old.get position)
          (fresh.get position) then
        old.get position
      else fresh.get position := by
  induction old with
  | nil => exact position.elim0
  | @cons field fields element rest induction =>
      cases fresh with
      | cons other others =>
          exact Fin.cases rfl (fun position => induction others position)
            position

theorem get_update_of_agree {old fresh : Record fields}
    {position : Fin fields.length}
    (agree : (fields.get position).type.Agree (old.get position)
      (fresh.get position)) :
    (old.update fresh).get position = old.get position := by
  rw [get_update, if_pos (HostType.same_iff.mpr agree)]

theorem get_update_of_not_agree {old fresh : Record fields}
    {position : Fin fields.length}
    (differ : ¬(fields.get position).type.Agree (old.get position)
      (fresh.get position)) :
    (old.update fresh).get position = fresh.get position := by
  rw [get_update, if_neg (mt HostType.same_iff.mp differ)]

/-- What a record holds after a fresh one has been taken over: its own element
wherever the two compare equal, and the fresh one everywhere else. -/
structure TakesOver (old fresh after : Record fields) : Prop where
  kept : ∀ position,
    (fields.get position).type.Agree (old.get position)
        (fresh.get position) →
      after.get position = old.get position
  replaced : ∀ position,
    ¬(fields.get position).type.Agree (old.get position)
        (fresh.get position) →
      after.get position = fresh.get position

theorem takesOver_update (old fresh : Record fields) :
    TakesOver old fresh (old.update fresh) where
  kept _ := get_update_of_agree
  replaced _ := get_update_of_not_agree

theorem TakesOver.eq_update {old fresh after : Record fields}
    (taken : TakesOver old fresh after) : after = old.update fresh := by
  apply eq_of_get_eq
  intro position
  by_cases agree : (fields.get position).type.Agree (old.get position)
      (fresh.get position)
  · rw [taken.kept position agree, get_update_of_agree agree]
  · rw [taken.replaced position agree, get_update_of_not_agree agree]

/-- An element that has been replaced is the fresh one, whether or not this
compares equal to itself. -/
theorem update_update (old fresh : Record fields) :
    (old.update fresh).update fresh = old.update fresh := by
  apply eq_of_get_eq
  intro position
  by_cases agree : (fields.get position).type.Agree (old.get position)
      (fresh.get position)
  · have kept := get_update_of_agree agree
    rw [← kept] at agree
    exact get_update_of_agree agree
  · have replaced := get_update_of_not_agree agree
    rw [get_update, replaced, ite_self]

theorem update_of_realFree {old fresh : Record fields}
    (realFree : old.RealFree ∨ fresh.RealFree) : old.update fresh = fresh := by
  apply eq_of_get_eq
  intro position
  by_cases agree : (fields.get position).type.Agree (old.get position)
      (fresh.get position)
  · rw [get_update_of_agree agree]
    exact agree.eq_of_realFree (realFree.imp (· position) (· position))
  · exact get_update_of_not_agree agree

end Record

namespace Entity

variable {entity : Entity} {record fresh : entity.Record} {row : List Value}

theorem applyRow_of_error {error : Error}
    (refused : entity.ofRow row = .error error) :
    entity.applyRow record row = (record, .error error) := by
  rw [applyRow, refused]

theorem applyRow_of_ok (read : entity.ofRow row = .ok fresh) :
    entity.applyRow record row = (record.update fresh, .ok ()) := by
  rw [applyRow, read]

/-- A row that is no record is refused with its error and leaves the record as
it was.  A row that is one replaces the elements that do not compare equal to
its own, and no others.  The same row applied again changes nothing, and the
record is the row's where one of them is without floating-point numbers. -/
theorem applyRow_all_or_nothing (entity : Entity) (record : entity.Record)
    (row : List Value) :
    (∀ error, entity.ofRow row = .error error →
      entity.applyRow record row = (record, .error error)) ∧
    ∀ fresh, entity.ofRow row = .ok fresh →
      ∃ updated : entity.Record,
        entity.applyRow record row = (updated, .ok ()) ∧
        (∀ position,
          (entity.fields.get position).type.Agree (record.get position)
              (fresh.get position) →
            updated.get position = record.get position) ∧
        (∀ position,
          ¬(entity.fields.get position).type.Agree (record.get position)
              (fresh.get position) →
            updated.get position = fresh.get position) ∧
        entity.applyRow updated row = (updated, .ok ()) ∧
        (record.RealFree ∨ fresh.RealFree → updated = fresh) := by
  constructor
  · intro error refused
    exact applyRow_of_error refused
  · intro fresh read
    have taken := Record.takesOver_update record fresh
    refine ⟨record.update fresh, applyRow_of_ok read, taken.kept,
      taken.replaced, ?_, ?_⟩
    · rw [applyRow_of_ok read, Record.update_update]
    · intro realFree
      exact Record.update_of_realFree realFree

/-- Of zeros with different signs the old ones stay, inside a document too, and
of two NaNs the fresh one is taken.  A count that is a text spoils the whole
row. -/
theorem applyRow_all_or_nothing_gauges :
    let gauges : Entity := .declare "Gauges" none
      [("low", .optional .double), ("high", .optional .double),
        ("notes", .required .json), ("count", .required .int64)]
    let double (bits : UInt64) : Binary64 := { bits := bits }
    let listing (number : Json.Number) : Json.Document :=
      { tree := .array [.number number], ordered := ⟨trivial, trivial⟩ }
    let zero : Json.Number := .real (double 0) (by decide)
    let minusZero : Json.Number :=
      .real (double 0x8000000000000000) (by decide)
    let record : gauges.Record :=
      .cons (some (double 0x8000000000000000))
        (.cons (some (double 0x7FF8000000000000))
          (.cons (listing zero) (.cons (1 : Int64) .nil)))
    let fresh : gauges.Record :=
      .cons (some (double 0))
        (.cons (some (double 0xFFF8000000000001))
          (.cons (listing minusZero) (.cons (2 : Int64) .nil)))
    let idle : gauges.Record :=
      .cons none (.cons none
        (.cons { tree := .null, ordered := trivial } (.cons (1 : Int64) .nil)))
    let spoilt : List Value :=
      [.real (double 0), .null, .json (listing zero), .text "two"]
    let error : Error :=
      .undecodable gauges.tableName "count" (.mismatch .integer (some .text))
    let low : Fin gauges.fields.length := ⟨0, by decide⟩
    let high : Fin gauges.fields.length := ⟨1, by decide⟩
    let notes : Fin gauges.fields.length := ⟨2, by decide⟩
    gauges.ofRow spoilt = .error error ∧
      gauges.applyRow record spoilt = (record, .error error) ∧
      gauges.ofRow fresh.values = .ok fresh ∧
      (∃ updated : gauges.Record,
        gauges.applyRow record fresh.values = (updated, .ok ()) ∧
        updated.get low = record.get low ∧
        updated.get high = fresh.get high ∧
        updated.get notes = record.get notes ∧
        gauges.applyRow updated fresh.values = (updated, .ok ())) ∧
      idle.RealFree ∧
      gauges.applyRow idle fresh.values = (fresh, .ok ()) := by
  intro gauges double listing zero minusZero record fresh idle spoilt error low
    high notes
  have refused : gauges.ofRow spoilt = .error error := rfl
  have read : gauges.ofRow fresh.values = .ok fresh := rfl
  have lowAgrees : (gauges.fields.get low).type.Agree (record.get low)
      (fresh.get low) :=
    .some ⟨by decide, by decide⟩
  have highDiffers : ¬(gauges.fields.get high).type.Agree (record.get high)
      (fresh.get high) := by
    rintro ⟨number, -⟩
    revert number
    decide
  have notesAgree : (gauges.fields.get notes).type.Agree (record.get notes)
      (fresh.get notes) := by
    have sameZero : zero.dropZeroSign = minusZero.dropZeroSign := by decide
    exact congrArg (fun number => Json.Tree.array [.number number]) sameZero
  have realFree : idle.RealFree := by
    intro position
    match position with
    | ⟨0, _⟩ => exact nofun
    | ⟨1, _⟩ => exact nofun
    | ⟨2, _⟩ => trivial
    | ⟨3, _⟩ => trivial
  obtain ⟨unchanged, -⟩ := applyRow_all_or_nothing gauges record spoilt
  obtain ⟨-, applied⟩ := applyRow_all_or_nothing gauges record fresh.values
  obtain ⟨updated, first, kept, taken, again, -⟩ := applied fresh read
  obtain ⟨-, appliedIdle⟩ := applyRow_all_or_nothing gauges idle fresh.values
  obtain ⟨now, whole, -, -, -, same⟩ := appliedIdle fresh read
  refine ⟨refused, unchanged error refused, read,
    ⟨updated, first, kept low lowAgrees, taken high highDiffers,
      kept notes notesAgree, again⟩, realFree, ?_⟩
  rw [whole, same (.inl realFree)]

end Entity

end TypedSql
