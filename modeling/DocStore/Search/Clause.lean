import DocStore.Error
import DocStore.Text.Alphanumeric
import DocStore.Text.Blank

/-!
# Search clauses

A clause asks for documents whose fields have given values, as `field=value` parts joined by `&`.
Each field is constrained once: its first value counts, and its later ones are only remembered as
duplicates.
-/

namespace DocStore

structure Clause where
  constraints : List (String × String)
  /-- The fields of the constraints that were dropped, in order. -/
  duplicates : List String
  deriving DecidableEq

namespace Clause

/-- The clause that every document satisfies. -/
def empty : Clause := ⟨[], []⟩

def get? (field : String) (clause : Clause) : Option String :=
  (clause.constraints.find? (·.1 = field)).map (·.2)

/-- Constrains a field and tells whether it did: a field that is constrained already keeps its
value. -/
def insert (field value : String) (clause : Clause) : Clause × Bool :=
  if (clause.get? field).isSome then
    ({ clause with duplicates := clause.duplicates ++ [field] }, false)
  else ({ clause with constraints := clause.constraints ++ [(field, value)] }, true)

/-- The clause with one more constraint. -/
def adding (clause : Clause) (pair : String × String) : Clause := (clause.insert pair.1 pair.2).1

def ofPairs (pairs : List (String × String)) : Clause := pairs.foldl adding empty

def isFieldChar (c : Char) : Bool := Text.isAlphanumeric c || c == '_' || c == '.'

/-- Reads `field=value`. Blanks around it and around the field do not count. -/
def parsePart (text : String) : Except ClauseFault (String × String) :=
  let part := Text.trim text
  match Text.splitOnce? '=' part with
  | none => .error (.noEquals part)
  | some (before, value) =>
    let field := Text.trim before
    if field = "" ∨ !field.toList.all isFieldChar then .error (.fieldName field)
    else if value = "" then .error (.noValue field)
    else .ok (field, value)

/-- Reads parts joined by `&`; a blank text is the empty clause. -/
def parse (text : String) : Except ClauseFault Clause :=
  if Text.allBlank text then .ok empty
  else ((Text.split '&' text).mapM parsePart).map ofPairs

end Clause

end DocStore
