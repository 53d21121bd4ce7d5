import DocStore.Json.Basic
import DocStore.Text.Count
import DocStore.Text.Split

/-!
# Values at dotted paths

A path names a value inside a document: each segment selects a field of an object or, if it is a
count, an item of an array. A path without a dot is the name of a top-level field and nothing else.
-/

namespace DocStore.Json

/-- The value that one segment selects. -/
def step? (segment : String) : Json → Option Json
  | .obj fields => Fields.get? segment fields
  | .arr items =>
    match Text.count segment with
    | .ok index => items[index]?
    | .error _ => none
  | _ => none

/-- The value at the end of a walk along segments. -/
def walk? : List String → Json → Option Json
  | [], value => some value
  | segment :: rest, value => (value.step? segment).bind (walk? rest)

def get? (doc : Json) (path : String) : Option Json :=
  if Text.contains path '.' then walk? (Text.split '.' path) doc else doc.field? path

end DocStore.Json
