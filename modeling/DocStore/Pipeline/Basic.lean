import DocStore.CollectionName
import DocStore.Json.Equality
import DocStore.Json.Path

/-!
# Pipelines

A pipeline keeps the documents that meet all its conditions and gives each of them one more field
per lookup, with the documents of another collection that belong to it. All lookups work on the
document as it is stored, so none sees what another one adds.
-/

namespace DocStore

/-- Takes in the documents of `collection` whose `foreignField` has the value of `localField`. -/
structure Lookup where
  collection : CollectionName
  localField : String
  foreignField : String
  output : String
  deriving DecidableEq

structure Pipeline where
  conditions : List (String × Json)
  lookups : List Lookup
  deriving DecidableEq

/-- The documents of each collection. -/
abbrev Resolver := CollectionName → List Json

namespace Lookup

/-- Whether a foreign document belongs to a local value: an array stands for each of its items. -/
def joins (lookup : Lookup) (value foreign : Json) : Bool :=
  match foreign.get? lookup.foreignField with
  | none => false
  | some actual =>
    match value with
    | .arr items => items.any (actual.matchesValue ·)
    | scalar => actual.matchesValue scalar

/-- The foreign documents that belong to a document; none if its field is missing or null. -/
def collect (lookup : Lookup) (doc : Json) (foreign : List Json) : List Json :=
  match doc.get? lookup.localField with
  | none => []
  | some .null => []
  | some value => foreign.filter (lookup.joins value)

/-- Puts the documents taken in under the output field; what is no object has no fields. -/
def attach (lookup : Lookup) (found : List Json) : Json → Json
  | .obj fields => .obj (Fields.insert lookup.output (.arr found) fields)
  | other => other

end Lookup

namespace Pipeline

/-- Whether the document has the expected value in the field. -/
def holds (doc : Json) (condition : String × Json) : Bool :=
  match doc.get? condition.1 with
  | some actual => actual.matchesValue condition.2
  | none => false

def accepts (pipeline : Pipeline) (doc : Json) : Bool := pipeline.conditions.all (holds doc)

/-- The result for one document, if it is accepted. -/
def apply (pipeline : Pipeline) (resolve : Resolver) (doc : Json) : Option Json :=
  if pipeline.accepts doc then
    some (pipeline.lookups.foldl
      (fun result lookup => lookup.attach (lookup.collect doc (resolve lookup.collection)) result)
      doc)
  else none

end Pipeline

end DocStore
