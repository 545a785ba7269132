import TypedSql.Proofs.Text.Digits

/-!
# Bytewise order

Texts are compared byte by byte in UTF-8, and a text comes before all that it
begins.  Among texts of ASCII characters that is the order of the characters.
-/

namespace TypedSql

/-- The bytes of a text in UTF-8. -/
def bytesOf (text : String) : List UInt8 :=
  text.toUTF8.data.toList

def bytewise (left right : String) : Ordering :=
  compare (bytesOf left) (bytesOf right)

def Ascii (text : List Char) : Prop :=
  ∀ character ∈ text, character.toNat < 128

instance (text : List Char) : Decidable (Ascii text) :=
  List.decidableBAll _ text

theorem ascii_cons {character : Char} {text : List Char} :
    Ascii (character :: text) ↔ character.toNat < 128 ∧ Ascii text :=
  List.forall_mem_cons

theorem ascii_append {left right : List Char} :
    Ascii (left ++ right) ↔ Ascii left ∧ Ascii right :=
  List.forall_mem_append

theorem Numeral.AllDigits.ascii {digits : List Char}
    (allDigits : AllDigits digits) : Ascii digits := by
  intro digit member
  have bounds := toNat_of_isDigit (allDigits digit member)
  omega

theorem utf8EncodeChar_of_ascii {character : Char}
    (ascii : character.toNat < 128) :
    String.utf8EncodeChar character = [character.val.toUInt8] := by
  apply String.utf8EncodeChar_eq_singleton
  unfold Char.utf8Size
  apply if_pos
  rw [UInt32.le_iff_toNat_le]
  exact Nat.le_of_lt_succ ascii

theorem bytesOf_ofList {text : List Char} (ascii : Ascii text) :
    bytesOf (String.ofList text) =
      text.map fun character => character.val.toUInt8 := by
  have unfolded :
      bytesOf (String.ofList text) = text.flatMap String.utf8EncodeChar := by
    simp [bytesOf, List.utf8Encode]
  rw [unfolded]
  clear unfolded
  induction text with
  | nil => rfl
  | cons character text induction =>
      obtain ⟨first, others⟩ := ascii_cons.mp ascii
      rw [List.flatMap_cons, utf8EncodeChar_of_ascii first, induction others]
      rfl

theorem toNat_byte {character : Char} (ascii : character.toNat < 128) :
    character.val.toUInt8.toNat = character.toNat := by
  rw [UInt32.toNat_toUInt8]
  exact Nat.mod_eq_of_lt (Nat.lt_trans ascii (by decide))

theorem compare_byte {left right : Char} (leftAscii : left.toNat < 128)
    (rightAscii : right.toNat < 128) :
    compare left.val.toUInt8 right.val.toUInt8 = compare left right := by
  have less : left.val.toUInt8 < right.val.toUInt8 ↔
      left.toNat < right.toNat := by
    rw [UInt8.lt_iff_toNat_lt, toNat_byte leftAscii, toNat_byte rightAscii]
  have same : left.val.toUInt8 = right.val.toUInt8 ↔
      left.toNat = right.toNat := by
    rw [← UInt8.toNat_inj, toNat_byte leftAscii, toNat_byte rightAscii]
  rw [Numeral.compare_toNat]
  change compareOfLessAndEq left.val.toUInt8 right.val.toUInt8 =
    compareOfLessAndEq left.toNat right.toNat
  simp only [compareOfLessAndEq, less, same]

theorem bytewise_ofList {left right : List Char} (leftAscii : Ascii left)
    (rightAscii : Ascii right) :
    bytewise (String.ofList left) (String.ofList right) =
      compare left right := by
  unfold bytewise
  rw [bytesOf_ofList leftAscii, bytesOf_ofList rightAscii]
  induction left generalizing right with
  | nil => cases right <;> rfl
  | cons character left induction =>
      cases right with
      | nil => rfl
      | cons other right =>
          obtain ⟨first, others⟩ := ascii_cons.mp leftAscii
          obtain ⟨second, rest⟩ := ascii_cons.mp rightAscii
          rw [List.map_cons, List.map_cons, List.compare_cons_cons,
            List.compare_cons_cons, compare_byte first second,
            induction others rest]

end TypedSql
