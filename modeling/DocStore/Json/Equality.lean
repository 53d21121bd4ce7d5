import DocStore.Json.Basic

/-!
# The equality of queries

Numbers are equal by value: two whole numbers exactly, a whole number and a double after the whole
number is rounded to a double. All else is equal by structure, and the order of an object's fields
does not count. `matchesValue` is the test of a query: an array also matches by one of its items.
-/

namespace DocStore

namespace Number

def toBinary64 : Number → Binary64
  | .int n => .ofInt n.value
  | .float x => x

def equal : Number → Number → Bool
  | .int a, .int b => a.value == b.value
  | a, b => a.toBinary64.equal b.toBinary64

end Number

namespace Json

mutual

def equal : Json → Json → Bool
  | .null, .null => true
  | .bool a, .bool b => a == b
  | .num a, .num b => a.equal b
  | .str a, .str b => a == b
  | .arr xs, .arr ys => equalItems xs ys
  | .obj xs, .obj ys => xs.length == ys.length && fieldsWithin xs ys
  | _, _ => false

def equalItems : List Json → List Json → Bool
  | [], [] => true
  | x :: xs, y :: ys => equal x y && equalItems xs ys
  | _, _ => false

/-- Whether each field on the left has an equal one of its name on the right. -/
def fieldsWithin : List (String × Json) → List (String × Json) → Bool
  | [], _ => true
  | (name, x) :: xs, ys =>
    (match Fields.get? name ys with
      | some y => equal x y
      | none => false) && fieldsWithin xs ys

end

/-- Whether a stored value answers to an expected one: it equals it, or it is an array with an equal
item and the expected value is no array itself. -/
def matchesValue (actual expected : Json) : Bool :=
  actual.equal expected ||
    match actual with
    | .arr items => !expected.isArray && items.any (·.equal expected)
    | _ => false

end Json

end DocStore
