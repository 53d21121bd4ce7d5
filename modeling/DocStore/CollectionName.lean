import DocStore.Text.LowerCase
import DocStore.Text.Split

/-!
# Names of collections

Every text can stand as a name; only a valid one can name a collection of a store.
-/

namespace DocStore

structure CollectionName where
  text : String
  deriving DecidableEq

namespace CollectionName

/-- The collection of the records of a type: the type's name in lower case. -/
def ofTypeName (typeName : String) : CollectionName := ⟨Text.lowerCase typeName⟩

/-- The field under which documents of `left` take in the documents of `right`. -/
def joinedField (left right : CollectionName) : String := s!"{left.text}_{right.text}"

/-- A valid name is not empty and has neither a dollar sign nor NUL in it. -/
def Valid (name : CollectionName) : Prop :=
  name.text ≠ "" ∧ Text.contains name.text '$' = false ∧ Text.contains name.text '\x00' = false

instance (name : CollectionName) : Decidable name.Valid :=
  inferInstanceAs (Decidable (_ ∧ _ ∧ _))

/-- Names stand in the order of their code points. -/
def order (a b : CollectionName) : Ordering := compare a.text b.text

end CollectionName

end DocStore
