import TypedSql.Json.Printing
import TypedSql.Json.Reading.Text

/-!
# Reading written strings

A written string is read back whatever it holds.  The reader takes one step for
each character, however long its escape is.
-/

namespace TypedSql.Json

theorem hexValue?_digitChar {digit : Nat} (small : digit < 16) :
    hexValue? (Nat.digitChar digit) = some digit := by
  have all : ∀ digit : Fin 16,
      hexValue? (Nat.digitChar digit) = some digit.val := by
    decide
  exact all ⟨digit, small⟩

/-- The escape of a control character is read back. -/
theorem readEscape_control {character : Char}
    (control : character.toNat < 0x20) (rest : List Symbol) :
    readEscape
        (.char 'u' :: .char '0' :: .char '0' ::
          .char (Nat.digitChar (character.toNat / 16)) ::
          .char (Nat.digitChar (character.toNat % 16)) :: rest) =
      .ok (character, rest) := by
  have zero : hexValue? '0' = some 0 := rfl
  have high : hexValue? (Nat.digitChar (character.toNat / 16)) =
      some (character.toNat / 16) := hexValue?_digitChar (by omega)
  have low : hexValue? (Nat.digitChar (character.toNat % 16)) =
      some (character.toNat % 16) := hexValue?_digitChar (by omega)
  have unit : ((0 * 16 + 0) * 16 + character.toNat / 16) * 16 +
      character.toNat % 16 = character.toNat := by omega
  have notLow : ¬(0xDC00 ≤ character.toNat ∧ character.toNat ≤ 0xDFFF) := by
    omega
  have notHigh : ¬(0xD800 ≤ character.toNat ∧ character.toNat ≤ 0xDBFF) := by
    omega
  simp only [readEscape, readCodePoint, readCodeUnit, zero, high, low, unit,
    bind, Except.bind, notLow, notHigh, if_false, Char.ofNat_toNat]
  rfl

/-- Either an escape stands for a character, or the character itself does and
is none that a string cannot hold. -/
theorem escape_cases (character : Char) :
    (∃ escaped, escape character = '\\' :: escaped ∧
      ∀ text, readEscape (escaped.map .char ++ text) = .ok (character, text)) ∨
    (escape character = [character] ∧ character ≠ '"' ∧ character ≠ '\\' ∧
      0x20 ≤ character.toNat) := by
  by_cases named :
      character ∈ ['"', '\\', '\x08', '\x0c', '\n', '\r', '\t']
  · left
    simp only [List.mem_cons, List.not_mem_nil, or_false] at named
    rcases named with rfl | rfl | rfl | rfl | rfl | rfl | rfl <;>
      exact ⟨_, rfl, fun _ => rfl⟩
  · simp only [List.mem_cons, List.not_mem_nil, or_false, not_or] at named
    unfold escape
    simp only [named, if_false]
    split
    case isTrue control =>
      exact .inl ⟨_, rfl, fun text => readEscape_control control text⟩
    case isFalse noControl =>
      exact .inr ⟨rfl, named.1, named.2.1, Nat.not_lt.mp noControl⟩

theorem readContents_escaped {escaped rest text : List Symbol}
    {character : Char}
    (read : readEscape (escaped ++ text) = .ok (character, text))
    {contents : List Symbol} {fuel : Nat}
    (following : readContents fuel text = .ok (contents, rest)) :
    readContents (fuel + 1) (.char '\\' :: (escaped ++ text)) =
      .ok (.char character :: contents, rest) := by
  rw [readContents, read]
  simp only [bind, Except.bind, following]
  rfl

theorem readContents_plain {character : Char} (noQuote : character ≠ '"')
    (noBackslash : character ≠ '\\') (noControl : 0x20 ≤ character.toNat)
    {text rest contents : List Symbol} {fuel : Nat}
    (following : readContents fuel text = .ok (contents, rest)) :
    readContents (fuel + 1) (.char character :: text) =
      .ok (.char character :: contents, rest) := by
  have plain : (Symbol.char character).isControl = false :=
    decide_eq_false (Nat.not_lt.mpr noControl)
  rw [readContents]
  · simp only [plain, Bool.false_eq_true, if_false, bind, Except.bind,
      following]
    rfl
  · intro isQuote
    exact noQuote (Symbol.char.inj isQuote)
  · intro isBackslash
    exact noBackslash (Symbol.char.inj isBackslash)

/-- The characters of a string are read up to its closing quotation mark. -/
theorem readContents_written (characters : List Char) (rest : List Symbol)
    {fuel : Nat} (enough : characters.length < fuel) :
    readContents fuel
        ((characters.flatMap escape).map .char ++ .char '"' :: rest) =
      .ok (characters.map .char, rest) := by
  induction characters generalizing fuel with
  | nil =>
      obtain ⟨fuel, rfl⟩ := Nat.exists_eq_add_one.mpr enough
      rfl
  | cons character characters induction =>
      obtain ⟨fuel, rfl⟩ := Nat.exists_eq_add_one.mpr (Nat.zero_lt_of_lt enough)
      have following := induction (Nat.lt_of_succ_lt_succ enough)
      rw [List.flatMap_cons, List.map_append, List.append_assoc]
      rcases escape_cases character with
        ⟨escaped, isEscape, read⟩ | ⟨isPlain, noQuote, noBackslash, noControl⟩
      · rw [isEscape]
        exact readContents_escaped (read _) following
      · rw [isPlain]
        exact readContents_plain noQuote noBackslash noControl following

theorem charactersOf_chars (rest : List Symbol) (characters : List Char) :
    charactersOf rest (characters.map .char) = .ok characters := by
  induction characters with
  | nil => rfl
  | cons character characters induction =>
      rw [List.map_cons, charactersOf, induction]
      rfl

theorem length_le_length_flatMap_escape (characters : List Char) :
    characters.length ≤ (characters.flatMap escape).length := by
  induction characters with
  | nil => exact Nat.le_refl 0
  | cons character characters induction =>
      have one : 1 ≤ (escape character).length := by
        rcases escape_cases character with ⟨escaped, isEscape, -⟩ | ⟨isPlain, -⟩
        · simp [isEscape]
        · simp [isPlain]
      rw [List.flatMap_cons, List.length_append, List.length_cons]
      omega

/-- A written string is read back behind its opening quotation mark. -/
theorem readString_written (string : String) (rest : List Symbol) :
    readString
        ((string.toList.flatMap escape).map .char ++ .char '"' :: rest) =
      .ok (string, rest) := by
  have enough : string.toList.length <
      ((string.toList.flatMap escape).map Symbol.char ++
        .char '"' :: rest).length + 1 := by
    have atLeast := length_le_length_flatMap_escape string.toList
    simp only [List.length_append, List.length_map]
    omega
  unfold readString
  rw [readContents_written _ _ enough]
  simp only [bind, Except.bind, charactersOf_chars, String.ofList_toList]
  rfl

end TypedSql.Json
