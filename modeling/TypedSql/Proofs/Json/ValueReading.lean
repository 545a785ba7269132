import TypedSql.Json.Reading
import TypedSql.Proofs.Json.NumberReading
import TypedSql.Proofs.Json.StringReading

/-!
# Reading written values

A written value without rounded numbers is read back in front of any text that
may follow a value, if it is not nested too deeply.  Otherwise the reader says
that it is.
-/

namespace TypedSql.Json

namespace Tree

mutual

/-- Levels of nesting.  An empty array or object is a level too. -/
def depth : Tree → Nat
  | .null => 0
  | .boolean _ => 0
  | .number _ => 0
  | .string _ => 0
  | .array items => depthOfItems items + 1
  | .object members => depthOfMembers members + 1

def depthOfItems : List Tree → Nat
  | [] => 0
  | item :: items => max (depth item) (depthOfItems items)

def depthOfMembers : List (String × Tree) → Nat
  | [] => 0
  | (_, value) :: members => max (depth value) (depthOfMembers members)

end

mutual

/-- All numbers are kept exactly. -/
def Exact : Tree → Prop
  | .null => True
  | .boolean _ => True
  | .number (.integer _ _) => True
  | .number (.real _ _) => False
  | .string _ => True
  | .array items => ExactItems items
  | .object members => ExactMembers members

def ExactItems : List Tree → Prop
  | [] => True
  | item :: items => Exact item ∧ ExactItems items

def ExactMembers : List (String × Tree) → Prop
  | [] => True
  | (_, value) :: members => Exact value ∧ ExactMembers members

end

end Tree

/-- What is needed is found if so many levels are allowed; otherwise the fault
is that the text is nested too deeply. -/
def ReadsWithin {α : Type} (needed depth : Nat) (found : α)
    (outcome : Except Failure α) : Prop :=
  if needed ≤ depth then outcome = .ok found
  else ∃ remaining,
    outcome = .error { fault := .tooDeep, remaining := remaining }

namespace ReadsWithin

variable {α β : Type} {needed more depth : Nat} {found : α} {result : β}

theorem of_ok {outcome : Except Failure α} (ok : outcome = .ok found) :
    ReadsWithin 0 depth found outcome := by
  rw [ReadsWithin, if_pos (Nat.zero_le depth)]
  exact ok

/-- Steps one after the other need the levels of the deepest. -/
theorem bind {first : Except Failure α} {next : α → Except Failure β}
    (head : ReadsWithin needed depth found first)
    (tail : ReadsWithin more depth result (next found)) :
    ReadsWithin (max needed more) depth result (first >>= next) := by
  unfold ReadsWithin at head tail ⊢
  by_cases enough : needed ≤ depth
  · rw [if_pos enough] at head
    rw [head]
    by_cases alsoEnough : more ≤ depth
    · rw [if_pos alsoEnough] at tail
      rw [if_pos (Nat.max_le.mpr ⟨enough, alsoEnough⟩)]
      exact tail
    · rw [if_neg alsoEnough] at tail
      rw [if_neg (fun both => alsoEnough (Nat.max_le.mp both).2)]
      exact tail
  · rw [if_neg enough] at head
    rw [if_neg (fun both => enough (Nat.max_le.mp both).1)]
    obtain ⟨remaining, failed⟩ := head
    exact ⟨remaining, by rw [failed]; rfl⟩

theorem map {first : Except Failure α} {change : α → β}
    (head : ReadsWithin needed depth found first) :
    ReadsWithin needed depth (change found)
      (first >>= fun item => .ok (change item)) := by
  have whole : ReadsWithin (max needed 0) depth (change found)
      (first >>= fun item => .ok (change item)) := head.bind (of_ok rfl)
  rwa [Nat.max_zero] at whole

theorem nest {outcome : Except Failure α}
    (inner : ReadsWithin needed depth found outcome) :
    ReadsWithin (needed + 1) (depth + 1) found outcome := by
  unfold ReadsWithin at inner ⊢
  simpa only [Nat.add_le_add_iff_right] using inner

theorem tooDeep (text : List Symbol) :
    ReadsWithin (needed + 1) 0 found (failAtNext .tooDeep text) := by
  rw [ReadsWithin, if_neg (Nat.not_succ_le_zero needed)]
  exact ⟨_, rfl⟩

end ReadsWithin

theorem isSpace_eq_false_of_isDigit {character : Char}
    (isDigit : character.isDigit) : isSpace (.char character) = false := by
  cases space : isSpace (.char character) with
  | false => rfl
  | true =>
      simp only [isSpace, Bool.or_eq_true, decide_eq_true_eq,
        Symbol.char.injEq] at space
      rcases space with ((rfl | rfl) | rfl) | rfl <;> cases isDigit

theorem skipSpace_of_not_isSpace {symbol : Symbol}
    (dense : isSpace symbol = false) (rest : List Symbol) :
    skipSpace (symbol :: rest) = symbol :: rest := by
  rw [skipSpace, List.dropWhile_cons_of_neg]
  rw [dense]
  exact Bool.false_ne_true

/-- A value that begins with a digit is a number. -/
theorem readValue_digit {character : Char} (isDigit : character.isDigit)
    (fuel depth : Nat) (rest : List Symbol) :
    readValue (fuel + 1) depth (.char character :: rest) =
      (readNumber false (.char character :: rest) >>= fun (number, rest) =>
        .ok (.number number, rest)) := by
  rw [readValue, skipSpace_of_not_isSpace (isSpace_eq_false_of_isDigit isDigit)]
  split
  case h_1 nothing => cases nothing
  case h_9 same =>
    cases same
    exact if_pos isDigit
  case h_10 none => exact (none _ _ rfl).elim
  all_goals
    rename_i same
    cases same
    exact absurd isDigit (by decide)

theorem readValue_minus (fuel depth : Nat) (text : List Symbol) :
    readValue (fuel + 1) depth (.char '-' :: text) =
      (readNumber true text >>= fun (number, rest) =>
        .ok (.number number, rest)) := by
  rw [readValue]
  rfl

theorem readValue_quote (fuel depth : Nat) (text : List Symbol) :
    readValue (fuel + 1) depth (.char '"' :: text) =
      (readString text >>= fun (string, rest) =>
        .ok (.string string, rest)) := by
  rw [readValue]
  rfl

/-- A written value begins with what neither is a blank nor closes an array. -/
theorem write_eq_cons {tree : Tree} (exact : tree.Exact) :
    ∃ first others, tree.write = first :: others ∧
      isSpace (.char first) = false ∧ first ≠ ']' := by
  cases tree with
  | null => exact ⟨_, _, rfl, rfl, by decide⟩
  | boolean value => cases value <;> exact ⟨_, _, rfl, rfl, by decide⟩
  | number number =>
      cases number with
      | real => cases exact
      | integer value inRange =>
          have ends : EndsValue [] := trivial
          rcases readNumber_writeInteger inRange ends with
            ⟨digits, isNegative, -⟩ | ⟨⟨digit, digits, isPlain, isDigit⟩, -⟩
          · exact ⟨_, _, isNegative, rfl, by decide⟩
          · refine ⟨_, _, isPlain, isSpace_eq_false_of_isDigit isDigit, ?_⟩
            rintro rfl
            cases isDigit
  | string value => exact ⟨_, _, rfl, rfl, by decide⟩
  | array items => cases items <;> exact ⟨_, _, rfl, rfl, by decide⟩
  | object members => cases members <;> exact ⟨_, _, rfl, rfl, by decide⟩

section

variable {item : Tree} (exact : item.Exact) {items : List Tree}
  {fuel depth needed more : Nat} {behind rest : List Symbol}
  (head : ReadsWithin needed depth (item, behind)
    (readValue fuel depth (item.write.map .char ++ behind)))
  (tail : ReadsWithin more depth (items, rest)
    (readMoreItems fuel depth behind))

include exact head tail

/-- An item is read where the array is not closed at once. -/
theorem readsWithin_firstItem :
    ReadsWithin (max needed more) depth (item :: items, rest)
      (readFirstItem (fuel + 1) depth (item.write.map .char ++ behind)) := by
  obtain ⟨first, others, isCons, dense, opens⟩ := write_eq_cons exact
  rw [isCons, List.map_cons, List.cons_append] at head ⊢
  rw [readFirstItem, skipSpace_of_not_isSpace dense]
  split
  case h_1 nothing => cases nothing
  case h_2 closed =>
    cases closed
    exact (opens rfl).elim
  case h_3 => exact head.bind tail.map

theorem readsWithin_moreItems :
    ReadsWithin (max needed more) depth (item :: items, rest)
      (readMoreItems (fuel + 1) depth
        (.char ',' :: (item.write.map .char ++ behind))) := by
  obtain ⟨first, others, isCons, dense, opens⟩ := write_eq_cons exact
  rw [isCons, List.map_cons, List.cons_append] at head ⊢
  have comma (text : List Symbol) : skipSpace (.char ',' :: text) =
      .char ',' :: text := rfl
  rw [readMoreItems, comma]
  split
  case h_3 same =>
    cases same
    rw [skipSpace_of_not_isSpace dense]
    split
    case h_1 nothing => cases nothing
    case h_2 closed =>
      cases closed
      exact (opens rfl).elim
    case h_3 => exact head.bind tail.map
  case h_4 none => exact (none _ rfl).elim
  all_goals
    rename_i same
    cases same

end

/-- An array needs one more level than its items. -/
theorem readsWithin_array {fuel needed : Nat} {text rest : List Symbol}
    {items : List Tree}
    (inner : ∀ depth, ReadsWithin needed depth (items, rest)
      (readFirstItem fuel depth text))
    (depth : Nat) :
    ReadsWithin (needed + 1) depth (.array items, rest)
      (readValue (fuel + 1) depth (.char '[' :: text)) := by
  rw [readValue]
  cases depth with
  | zero => exact .tooDeep _
  | succ depth => exact (inner depth).map.nest

/-- An object needs one more level than its members. -/
theorem readsWithin_object {fuel needed : Nat} {text rest : List Symbol}
    {members : List (String × Tree)}
    (inner : ∀ depth, ReadsWithin needed depth (members, rest)
      (readFirstMember fuel depth text))
    (depth : Nat) :
    ReadsWithin (needed + 1) depth (.object members, rest)
      (readValue (fuel + 1) depth (.char '\x7b' :: text)) := by
  rw [readValue]
  cases depth with
  | zero => exact .tooDeep _
  | succ depth => exact (inner depth).map.nest

theorem readFirstMember_quote (fuel depth : Nat) (text : List Symbol) :
    readFirstMember (fuel + 1) depth (.char '"' :: text) =
      readMember fuel depth text := by
  rw [readFirstMember]
  rfl

theorem readMoreMembers_member (fuel depth : Nat) (text : List Symbol) :
    readMoreMembers (fuel + 1) depth (.char ',' :: .char '"' :: text) =
      readMember fuel depth text := by
  rw [readMoreMembers]
  rfl

/-- A member is read behind the quotation mark of its key. -/
theorem readsWithin_member {key : String} {value : Tree}
    {members : List (String × Tree)} {fuel depth needed more : Nat}
    {text middle rest : List Symbol}
    (head : ReadsWithin needed depth (value, middle)
      (readValue fuel depth text))
    (tail : ReadsWithin more depth (members, rest)
      (readMoreMembers fuel depth middle)) :
    ReadsWithin (max needed more) depth ((key, value) :: members, rest)
      (readMember (fuel + 1) depth
        ((key.toList.flatMap escape).map .char ++
          .char '"' :: .char ':' :: text)) := by
  rw [readMember, readString_written]
  exact head.bind tail.map

theorem endsValue_writeItems (items : List Tree) (rest : List Symbol) :
    EndsValue ((Tree.writeItems items).map .char ++ rest) := by
  cases items with
  | nil => exact .inr (.inl rfl)
  | cons item items => exact .inl rfl

theorem endsValue_writeMembers (members : List (String × Tree))
    (rest : List Symbol) :
    EndsValue ((Tree.writeMembers members).map .char ++ rest) := by
  cases members with
  | nil => exact .inr (.inr rfl)
  | cons member members => exact .inl rfl

/-- A character that is written allows for two calls. -/
theorem exists_fuel {length fuel : Nat} (enough : 2 * (length + 1) ≤ fuel) :
    ∃ less, fuel = less + 2 ∧ 2 * length ≤ less :=
  ⟨fuel - 2, by omega, by omega⟩

theorem write_array_cons (item : Tree) (items : List Tree)
    (rest : List Symbol) :
    (Tree.array (item :: items)).write.map .char ++ rest =
      .char '[' :: (item.write.map .char ++
        ((Tree.writeItems items).map .char ++ rest)) := by
  simp [Tree.write]

theorem writeItems_cons (item : Tree) (items : List Tree)
    (rest : List Symbol) :
    (Tree.writeItems (item :: items)).map .char ++ rest =
      .char ',' :: (item.write.map .char ++
        ((Tree.writeItems items).map .char ++ rest)) := by
  simp [Tree.writeItems]

theorem write_object_cons (key : String) (value : Tree)
    (members : List (String × Tree)) (rest : List Symbol) :
    (Tree.object ((key, value) :: members)).write.map .char ++ rest =
      .char '\x7b' :: .char '"' :: ((key.toList.flatMap escape).map .char ++
        .char '"' :: .char ':' :: (value.write.map .char ++
          ((Tree.writeMembers members).map .char ++ rest))) := by
  simp [Tree.write, writeString]

theorem writeMembers_cons (key : String) (value : Tree)
    (members : List (String × Tree)) (rest : List Symbol) :
    (Tree.writeMembers ((key, value) :: members)).map .char ++ rest =
      .char ',' :: .char '"' :: ((key.toList.flatMap escape).map .char ++
        .char '"' :: .char ':' :: (value.write.map .char ++
          ((Tree.writeMembers members).map .char ++ rest))) := by
  simp [Tree.writeMembers, writeString]

theorem readValue_writeInteger {value : Int} (inRange : IntegerRange value)
    {fuel : Nat} (depth : Nat) {rest : List Symbol} (ends : EndsValue rest) :
    readValue (fuel + 1) depth ((writeInteger value).map .char ++ rest) =
      .ok (.number (.integer value inRange), rest) := by
  rcases readNumber_writeInteger inRange ends with
    ⟨digits, isNegative, read⟩ | ⟨⟨digit, digits, isPlain, isDigit⟩, read⟩
  · rw [isNegative, List.map_cons, List.cons_append, readValue_minus, read]
    rfl
  · rw [isPlain, List.map_cons, List.cons_append] at read ⊢
    rw [readValue_digit isDigit, read]
    rfl

theorem readValue_writeString (string : String) (fuel depth : Nat)
    (rest : List Symbol) :
    readValue (fuel + 1) depth ((writeString string).map .char ++ rest) =
      .ok (.string string, rest) := by
  have spelled : (writeString string).map .char ++ rest =
      .char '"' :: ((string.toList.flatMap escape).map .char ++
        .char '"' :: rest) := by
    simp [writeString]
  rw [spelled, readValue_quote, readString_written]
  rfl

mutual

/-- What is read in front of a rest is what was written, if it is not nested too
deeply. -/
theorem readValue_write (tree : Tree) (exact : tree.Exact) {fuel depth : Nat}
    {rest : List Symbol} (ends : EndsValue rest)
    (enough : 2 * tree.write.length ≤ fuel) :
    ReadsWithin tree.depth depth (tree, rest)
      (readValue fuel depth (tree.write.map .char ++ rest)) := by
  cases tree with
  | null =>
      obtain ⟨fuel, rfl, -⟩ := exists_fuel enough
      apply ReadsWithin.of_ok
      rw [Tree.write, readValue]
      rfl
  | boolean value =>
      cases value with
      | true | false =>
          obtain ⟨fuel, rfl, -⟩ := exists_fuel enough
          apply ReadsWithin.of_ok
          rw [Tree.write, readValue]
          rfl
  | number number =>
      cases number with
      | real => cases exact
      | integer value inRange =>
          obtain ⟨first, others, isCons, -⟩ := write_eq_cons exact
          rw [isCons] at enough
          obtain ⟨fuel, rfl, -⟩ := exists_fuel enough
          exact .of_ok (readValue_writeInteger inRange depth ends)
  | string value =>
      obtain ⟨fuel, rfl, -⟩ := exists_fuel enough
      exact .of_ok (readValue_writeString value _ depth rest)
  | array items =>
      cases items with
      | nil =>
          obtain ⟨fuel, rfl, -⟩ := exists_fuel enough
          apply readsWithin_array
          intro depth
          apply ReadsWithin.of_ok
          rw [readFirstItem]
          rfl
      | cons item items =>
          obtain ⟨itemExact, itemsExact⟩ := exact
          simp only [Tree.write, List.length_append, List.length_cons] at enough
          -- The bracket allows for this call and for the one behind it.
          have two : 2 ≤ fuel := by omega
          obtain ⟨fuel, rfl⟩ := Nat.exists_eq_add_of_le' two
          rw [write_array_cons]
          apply readsWithin_array
          intro depth
          apply readsWithin_firstItem itemExact
          · exact readValue_write item itemExact
              (endsValue_writeItems items rest) (by omega)
          · exact readMoreItems_write items itemsExact (by omega)
  | object members =>
      cases members with
      | nil =>
          obtain ⟨fuel, rfl, -⟩ := exists_fuel enough
          apply readsWithin_object
          intro depth
          apply ReadsWithin.of_ok
          rw [readFirstMember]
          rfl
      | cons member members =>
          obtain ⟨key, value⟩ := member
          obtain ⟨valueExact, membersExact⟩ := exact
          simp only [Tree.write, writeString, List.length_append,
            List.length_cons] at enough
          have four : 4 ≤ fuel := by omega
          obtain ⟨fuel, rfl⟩ := Nat.exists_eq_add_of_le' four
          rw [write_object_cons]
          apply readsWithin_object
          intro depth
          rw [readFirstMember_quote]
          apply readsWithin_member
          · exact readValue_write value valueExact
              (endsValue_writeMembers members rest) (by omega)
          · exact readMoreMembers_write members membersExact (by omega)

theorem readMoreItems_write (items : List Tree) (exact : Tree.ExactItems items)
    {fuel depth : Nat} {rest : List Symbol}
    (enough : 2 * (Tree.writeItems items).length ≤ fuel) :
    ReadsWithin (Tree.depthOfItems items) depth (items, rest)
      (readMoreItems fuel depth
        ((Tree.writeItems items).map .char ++ rest)) := by
  cases items with
  | nil =>
      obtain ⟨fuel, rfl, -⟩ := exists_fuel enough
      apply ReadsWithin.of_ok
      rw [Tree.writeItems, readMoreItems]
      rfl
  | cons item items =>
      obtain ⟨itemExact, itemsExact⟩ := exact
      simp only [Tree.writeItems, List.length_append, List.length_cons]
        at enough
      have one : 1 ≤ fuel := by omega
      obtain ⟨fuel, rfl⟩ := Nat.exists_eq_add_of_le' one
      rw [writeItems_cons]
      apply readsWithin_moreItems itemExact
      · exact readValue_write item itemExact
          (endsValue_writeItems items rest) (by omega)
      · exact readMoreItems_write items itemsExact (by omega)

theorem readMoreMembers_write (members : List (String × Tree))
    (exact : Tree.ExactMembers members) {fuel depth : Nat}
    {rest : List Symbol}
    (enough : 2 * (Tree.writeMembers members).length ≤ fuel) :
    ReadsWithin (Tree.depthOfMembers members) depth (members, rest)
      (readMoreMembers fuel depth
        ((Tree.writeMembers members).map .char ++ rest)) := by
  cases members with
  | nil =>
      obtain ⟨fuel, rfl, -⟩ := exists_fuel enough
      apply ReadsWithin.of_ok
      rw [Tree.writeMembers, readMoreMembers]
      rfl
  | cons member members =>
      obtain ⟨key, value⟩ := member
      obtain ⟨valueExact, membersExact⟩ := exact
      simp only [Tree.writeMembers, writeString, List.length_append,
        List.length_cons] at enough
      have three : 3 ≤ fuel := by omega
      obtain ⟨fuel, rfl⟩ := Nat.exists_eq_add_of_le' three
      rw [writeMembers_cons, readMoreMembers_member]
      apply readsWithin_member
      · exact readValue_write value valueExact
          (endsValue_writeMembers members rest) (by omega)
      · exact readMoreMembers_write members membersExact (by omega)

end

end TypedSql.Json
