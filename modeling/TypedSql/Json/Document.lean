import TypedSql.Json.Tree

/-!
# JSON documents

A document is a tree in which the keys of every object increase.  Every tree
has a document, `Document.ofTree`: the members of its objects are put in order,
and of several members with one key the last counts.
-/

namespace TypedSql.Json

namespace Tree

mutual

/-- The keys of every object increase. -/
def Ordered : Tree → Prop
  | .null => True
  | .boolean _ => True
  | .number _ => True
  | .string _ => True
  | .array items => OrderedItems items
  | .object members =>
      (members.map Prod.fst).Pairwise (· < ·) ∧ OrderedMembers members

def OrderedItems : List Tree → Prop
  | [] => True
  | item :: items => Ordered item ∧ OrderedItems items

def OrderedMembers : List (String × Tree) → Prop
  | [] => True
  | (_, value) :: members => Ordered value ∧ OrderedMembers members

end

/-- Puts a member in its place among members in order, unless one of them has
its key. -/
def insertMember (key : String) (value : Tree) :
    List (String × Tree) → List (String × Tree)
  | [] => [(key, value)]
  | (other, otherValue) :: rest =>
      if key < other then (key, value) :: (other, otherValue) :: rest
      else if key = other then (other, otherValue) :: rest
      else (other, otherValue) :: insertMember key value rest

mutual

/-- The tree with the members of every object in order, the last one of each
key. -/
def canonical : Tree → Tree
  | .null => .null
  | .boolean value => .boolean value
  | .number value => .number value
  | .string value => .string value
  | .array items => .array (canonicalItems items)
  | .object members => .object (canonicalMembers members)

def canonicalItems : List Tree → List Tree
  | [] => []
  | item :: items => canonical item :: canonicalItems items

def canonicalMembers : List (String × Tree) → List (String × Tree)
  | [] => []
  | (key, value) :: members =>
      insertMember key (canonical value) (canonicalMembers members)

end

theorem mem_keys_insertMember {key found : String} {value : Tree}
    {members : List (String × Tree)}
    (member : found ∈ (insertMember key value members).map Prod.fst) :
    found = key ∨ found ∈ members.map Prod.fst := by
  induction members with
  | nil => simpa [insertMember] using member
  | cons head rest inductionHypothesis =>
      simp only [insertMember] at member
      split at member
      · simpa using member
      · split at member
        · exact Or.inr member
        · simp only [List.map_cons, List.mem_cons] at member ⊢
          rcases member with atHead | inRest
          · exact Or.inr (Or.inl atHead)
          · rcases inductionHypothesis inRest with isKey | inMembers
            · exact Or.inl isKey
            · exact Or.inr (Or.inr inMembers)

theorem pairwise_keys_insertMember (key : String) (value : Tree)
    {members : List (String × Tree)}
    (increasing : (members.map Prod.fst).Pairwise (· < ·)) :
    ((insertMember key value members).map Prod.fst).Pairwise (· < ·) := by
  induction members with
  | nil => simp [insertMember]
  | cons head rest inductionHypothesis =>
      obtain ⟨headFirst, restIncreasing⟩ := List.pairwise_cons.1 increasing
      simp only [insertMember]
      split
      case isTrue before =>
        refine List.pairwise_cons.2 ⟨?_, increasing⟩
        intro other member
        rcases List.mem_cons.1 member with rfl | inRest
        · exact before
        · exact String.lt_trans before (headFirst other inRest)
      case isFalse notBefore =>
        split
        case isTrue => exact increasing
        case isFalse differs =>
          refine List.pairwise_cons.2
            ⟨?_, inductionHypothesis restIncreasing⟩
          intro other member
          rcases mem_keys_insertMember member with rfl | inRest
          · exact Std.lt_of_le_of_ne (String.not_lt.1 notBefore)
              (Ne.symm differs)
          · exact headFirst other inRest

theorem orderedMembers_insertMember {key : String} {value : Tree}
    {members : List (String × Tree)} (valueOrdered : value.Ordered)
    (membersOrdered : OrderedMembers members) :
    OrderedMembers (insertMember key value members) := by
  induction members with
  | nil => exact ⟨valueOrdered, trivial⟩
  | cons head rest inductionHypothesis =>
      obtain ⟨headOrdered, restOrdered⟩ := membersOrdered
      simp only [insertMember]
      split
      · exact ⟨valueOrdered, headOrdered, restOrdered⟩
      · split
        · exact ⟨headOrdered, restOrdered⟩
        · exact ⟨headOrdered, inductionHypothesis restOrdered⟩

theorem pairwise_keys_canonicalMembers (members : List (String × Tree)) :
    ((canonicalMembers members).map Prod.fst).Pairwise (· < ·) := by
  induction members with
  | nil => simp [canonicalMembers]
  | cons head rest inductionHypothesis =>
      exact pairwise_keys_insertMember head.1 _ inductionHypothesis

mutual

theorem ordered_canonical : (tree : Tree) → tree.canonical.Ordered
  | .null => trivial
  | .boolean _ => trivial
  | .number _ => trivial
  | .string _ => trivial
  | .array items => orderedItems_canonicalItems items
  | .object members =>
      ⟨pairwise_keys_canonicalMembers members,
        orderedMembers_canonicalMembers members⟩

theorem orderedItems_canonicalItems :
    (items : List Tree) → OrderedItems (canonicalItems items)
  | [] => trivial
  | item :: items =>
      ⟨ordered_canonical item, orderedItems_canonicalItems items⟩

theorem orderedMembers_canonicalMembers :
    (members : List (String × Tree)) →
      OrderedMembers (canonicalMembers members)
  | [] => trivial
  | (_, value) :: members =>
      orderedMembers_insertMember (ordered_canonical value)
        (orderedMembers_canonicalMembers members)

end

end Tree

/-- A tree in which the keys of every object increase. -/
structure Document where
  tree : Tree
  ordered : tree.Ordered

namespace Document

/-- The document of a tree. -/
def ofTree (tree : Tree) : Document :=
  { tree := tree.canonical, ordered := tree.ordered_canonical }

def isNull (document : Document) : Bool :=
  document.tree.isNull

/-- Equality of documents, with rounded numbers compared as numbers. -/
def same (left right : Document) : Bool :=
  left.tree.same right.tree

end Document

end TypedSql.Json
