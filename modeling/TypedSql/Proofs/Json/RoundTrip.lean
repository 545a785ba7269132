import TypedSql.Proofs.Json.ValueReading

/-!
# Written documents read back

A document is in canonical form, so that nothing of it is lost when it is
written and read back.  Its bytes are read as its text.
-/

namespace TypedSql.Json

namespace Tree

theorem insertMember_of_first {key : String} {members : List (String × Tree)}
    (first : ∀ other ∈ members.map Prod.fst, key < other) (value : Tree) :
    insertMember key value members = (key, value) :: members := by
  cases members with
  | nil => rfl
  | cons member members => exact if_pos (first member.1 List.mem_cons_self)

mutual

/-- A tree in order is its own canonical form. -/
theorem canonical_of_ordered (tree : Tree) (ordered : tree.Ordered) :
    tree.canonical = tree := by
  cases tree with
  | null => rfl
  | boolean value => rfl
  | number value => rfl
  | string value => rfl
  | array items =>
      exact congrArg Tree.array (canonicalItems_of_ordered items ordered)
  | object members =>
      obtain ⟨increasing, membersOrdered⟩ := ordered
      exact congrArg Tree.object
        (canonicalMembers_of_ordered members increasing membersOrdered)

theorem canonicalItems_of_ordered (items : List Tree)
    (ordered : OrderedItems items) : canonicalItems items = items := by
  cases items with
  | nil => rfl
  | cons item items =>
      obtain ⟨itemOrdered, itemsOrdered⟩ := ordered
      rw [canonicalItems, canonical_of_ordered item itemOrdered,
        canonicalItems_of_ordered items itemsOrdered]

theorem canonicalMembers_of_ordered (members : List (String × Tree))
    (increasing : (members.map Prod.fst).Pairwise (· < ·))
    (ordered : OrderedMembers members) :
    canonicalMembers members = members := by
  cases members with
  | nil => rfl
  | cons member members =>
      obtain ⟨key, value⟩ := member
      obtain ⟨valueOrdered, membersOrdered⟩ := ordered
      obtain ⟨first, restIncreasing⟩ := List.pairwise_cons.mp increasing
      rw [canonicalMembers, canonical_of_ordered value valueOrdered,
        canonicalMembers_of_ordered members restIncreasing membersOrdered]
      exact insertMember_of_first first value

end

end Tree

theorem readTree_write {tree : Tree} (exact : tree.Exact) :
    ReadsWithin tree.depth depthLimit tree
      (readTree (tree.write.map .char)) := by
  have enough : 2 * tree.write.length ≤
      2 * (tree.write.map Symbol.char).length + 2 := by
    rw [List.length_map]
    omega
  have ends : EndsValue [] := trivial
  have head : ReadsWithin tree.depth depthLimit (tree, [])
      (readValue (2 * (tree.write.map Symbol.char).length + 2) depthLimit
        (tree.write.map .char)) := by
    simpa only [List.append_nil] using
      readValue_write tree exact ends enough
  have whole : ReadsWithin (max tree.depth 0) depthLimit tree
      (readTree (tree.write.map .char)) := head.bind (.of_ok rfl)
  rwa [Nat.max_zero] at whole

theorem Symbol.ofText_ofList (characters : List Char) :
    ofText (String.ofList characters) = characters.map .char := by
  rw [ofText, String.toList_ofList]

/-- Encoded text is read as the text. -/
theorem Symbol.ofBytes_toUTF8 (text : String) :
    ofBytes text.toUTF8 = ofText text := by
  have decoded : String.fromUTF8? text.toUTF8 = some text :=
    dif_pos text.isValidUTF8
  unfold ofBytes
  rw [decoded]

namespace Document

theorem ofTree_tree (document : Document) :
    ofTree document.tree = document := by
  obtain ⟨tree, ordered⟩ := document
  unfold ofTree
  congr
  exact tree.canonical_of_ordered ordered

/-- A written document is read back if its nesting is within the limit, and else
the fault is that it is nested too deeply. -/
theorem ofText_text {document : Document} (exact : document.tree.Exact) :
    if document.tree.depth ≤ depthLimit then
      ofText document.text = .ok document
    else ∃ place,
      ofText document.text = .error { fault := .tooDeep, place := place } := by
  have outcome := readTree_write exact
  have symbols : Symbol.ofText document.text =
      document.tree.write.map .char := Symbol.ofText_ofList _
  unfold ofText read
  rw [symbols]
  unfold ReadsWithin at outcome
  split
  case isTrue within =>
    rw [if_pos within] at outcome
    rw [outcome]
    exact congrArg Except.ok document.ofTree_tree
  case isFalse beyond =>
    rw [if_neg beyond] at outcome
    obtain ⟨remaining, failed⟩ := outcome
    rw [failed]
    exact ⟨_, rfl⟩

theorem ofBytes_toUTF8 (text : String) : ofBytes text.toUTF8 = ofText text :=
  congrArg read (Symbol.ofBytes_toUTF8 text)

/-- Documents within the limit that are written alike are equal. -/
theorem eq_of_text_eq {left right : Document} (leftExact : left.tree.Exact)
    (leftWithin : left.tree.depth ≤ depthLimit)
    (rightExact : right.tree.Exact)
    (rightWithin : right.tree.depth ≤ depthLimit)
    (sameText : left.text = right.text) : left = right := by
  have leftRead := ofText_text leftExact
  have rightRead := ofText_text rightExact
  rw [if_pos leftWithin, sameText] at leftRead
  rw [if_pos rightWithin, leftRead] at rightRead
  exact Except.ok.inj rightRead

end Document

end TypedSql.Json
