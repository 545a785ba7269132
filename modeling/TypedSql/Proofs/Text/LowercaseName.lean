import TypedSql.Proofs.Text.Lexing
import TypedSql.Text.Lowercase

/-!
# Names in lower case

A table is named in lower case.  No letter is lower-cased to anything but
letters, so a name that can stand without quotes still can.
-/

namespace TypedSql.Lexer

open Lowercase (letter inContext runs Run)

theorem ascii_stays : ∀ code < 0x80,
    (isWordStart (Char.ofNat code) →
      isWordStart (Char.ofNat code).toLower) ∧
    (isWordPart (Char.ofNat code) →
      isWordPart (Char.ofNat code).toLower) := by
  decide

/-- One letter beyond ASCII, the kelvin sign, is lower-cased to one of ASCII. -/
theorem target_stays : ∀ run ∈ runs,
    run.first = run.last ∧ run.target = 'k'.toNat ∨
      0x80 ≤ run.target ∧
        (run.target + (run.last - run.first) < 0xD800 ∨
          0xE000 ≤ run.target ∧
            run.target + (run.last - run.first) < 0x110000) := by
  decide +kernel

theorem isWordStart_of_image? {run : Run} (member : run ∈ runs)
    {source code : Nat} (mapped : run.image? source = some code) :
    isWordStart (Char.ofNat code) := by
  unfold Run.image? at mapped
  split at mapped
  case isFalse => cases mapped
  case isTrue inRun =>
    obtain ⟨low, high, -⟩ := inRun
    cases mapped
    rcases target_stays run member with ⟨single, target⟩ | ⟨beyond, valid⟩
    · have first : source - run.first = 0 := by omega
      rw [first, target]
      decide
    · have isValid : (run.target + (source - run.first)).isValidChar := by
        unfold Nat.isValidChar
        omega
      have sameCode :
          (Char.ofNat (run.target + (source - run.first))).toNat =
            run.target + (source - run.first) := by
        rw [Char.ofNat, dif_pos isValid]
        rfl
      have codeBeyond : 0x80 ≤ run.target + (source - run.first) := by omega
      simp [isWordStart, sameCode, codeBeyond]

theorem letter_stays (character : Char) :
    (isWordStart character → isWordStart (letter character)) ∧
      (isWordPart character → isWordPart (letter character)) := by
  unfold letter
  split
  case isTrue ascii =>
    have stays := ascii_stays character.toNat ascii
    rw [Char.ofNat_toNat] at stays
    exact stays
  case isFalse =>
    split
    case h_1 code found =>
      obtain ⟨run, member, mapped⟩ := List.exists_of_findSome?_eq_some found
      have isStart := isWordStart_of_image? member mapped
      exact ⟨fun _ => isStart, fun _ => by simp [isWordPart, isStart]⟩
    case h_2 => exact ⟨id, id⟩

theorem inContext_stays (before : List Char) (character : Char)
    (after : List Char) :
    (isWordStart character →
      ∃ first others, inContext before character after = first :: others ∧
        isWordStart first ∧ others.all isWordPart) ∧
    (isWordPart character →
      (inContext before character after).all isWordPart) := by
  obtain ⟨start, part⟩ := letter_stays character
  unfold inContext
  split
  case isTrue =>
    split
    · exact ⟨fun _ => ⟨_, _, rfl, by decide, rfl⟩, fun _ => by decide⟩
    · exact ⟨fun _ => ⟨_, _, rfl, by decide, rfl⟩, fun _ => by decide⟩
  case isFalse =>
    split
    case isTrue =>
      exact ⟨fun _ => ⟨_, _, rfl, by decide, by decide⟩, fun _ => by decide⟩
    case isFalse =>
      constructor
      · intro isStart
        exact ⟨_, _, rfl, start isStart, rfl⟩
      · intro isPart
        simp [part isPart]

theorem rest_stays (before text : List Char) (parts : text.all isWordPart) :
    (Lowercase.rest before text).all isWordPart := by
  induction text generalizing before with
  | nil => rfl
  | cons character text induction =>
      simp only [List.all_cons, Bool.and_eq_true] at parts
      obtain ⟨part, others⟩ := parts
      rw [Lowercase.rest, List.all_append, (inContext_stays _ _ _).2 part,
        induction _ others]
      rfl

/-- A name stays one in lower case. -/
theorem isIdentifier_lowercase {name : String}
    (identifier : isIdentifier name) : isIdentifier (lowercase name) := by
  unfold isIdentifier at identifier ⊢
  unfold lowercase
  cases characters : name.toList with
  | nil => simp [characters] at identifier
  | cons first others =>
      simp only [characters, Bool.and_eq_true] at identifier
      obtain ⟨isStart, parts⟩ := identifier
      obtain ⟨head, tail, image, headStart, tailParts⟩ :=
        (inContext_stays [] first others).1 isStart
      rw [String.toList_ofList, Lowercase.rest, image]
      simp [headStart, tailParts, rest_stays _ _ parts]

end TypedSql.Lexer
