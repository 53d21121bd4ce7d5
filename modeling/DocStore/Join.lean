import DocStore.CollectionName

/-!
# Declared joins

A join says that documents of the left collection take in those documents of the right one whose
field equals theirs. Joins are only added, and stay in the order in which they were declared.
-/

namespace DocStore

structure Join where
  left : CollectionName
  leftField : String
  right : CollectionName
  rightField : String
  deriving DecidableEq

namespace Join

/-- The field that receives the documents taken in. -/
def output (join : Join) : String := join.left.joinedField join.right

/-- The join between the collections of two record types. -/
def ofTypes (left leftField right rightField : String) : Join :=
  { left := .ofTypeName left, leftField, right := .ofTypeName right, rightField }

end Join

/-- All joins declared so far, in order. -/
abbrev Joins := List Join

namespace Joins

def declare (join : Join) (joins : Joins) : Joins := joins ++ [join]

/-- The joins with this left collection, in order. -/
def of (left : CollectionName) (joins : Joins) : List Join := joins.filter (·.left = left)

end Joins

end DocStore
