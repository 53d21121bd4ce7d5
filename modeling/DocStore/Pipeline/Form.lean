import DocStore.Error
import DocStore.Pipeline.Basic

/-!
# The written form of a pipeline

A pipeline is written as a list of stages: one `$match` stage with the conditions, then a `$lookup`
stage for each lookup. `Pipeline.ofJson` refuses everything that a store could not run.
-/

namespace DocStore

/-- A stage as it stands in the list. -/
inductive Stage where
  | conditions (conditions : List (String × Json))
  | lookup (lookup : Lookup)
  deriving DecidableEq

def Stage.operator : Stage → String
  | .conditions _ => "$match"
  | .lookup _ => "$lookup"

namespace Pipeline

/-- All stages in the order in which they work. -/
def stages (pipeline : Pipeline) : List Stage :=
  .conditions pipeline.conditions :: pipeline.lookups.map .lookup

/-- A condition asks for equality with a value that is no object. -/
def checkCondition (condition : String × Json) : Except QueryFault Unit :=
  if condition.1 = "" ∨ Text.startsWith condition.1 '$' then .error (.matchField condition.1)
  else if condition.2.isObject then .error (.matchNotEquality condition.1)
  else .ok ()

def conditionsOfJson : Json → Except QueryFault (List (String × Json))
  | .obj fields => do
    fields.forM checkCondition
    return fields
  | _ => .error .matchNotObject

/-- The text under a key, which must not be empty. -/
def lookupText (fields : List (String × Json)) (key : String) : Except QueryFault String :=
  match Fields.get? key fields with
  | some (.str text) => if text = "" then .error (.lookupText key) else .ok text
  | _ => .error (.lookupText key)

def lookupOfJson : Json → Except QueryFault Lookup
  | .obj fields => do
    let collection : CollectionName := ⟨← lookupText fields "from"⟩
    if ¬ collection.Valid then throw (.lookupCollection collection)
    let output ← lookupText fields "as"
    if Text.startsWith output '$' then throw (.lookupOutput output)
    let localField ← lookupText fields "localField"
    let foreignField ← lookupText fields "foreignField"
    return { collection, localField, foreignField, output }
  | _ => .error .lookupNotObject

def stageOfJson : Json → Except QueryFault Stage
  | .obj [("$match", spec)] => (conditionsOfJson spec).map .conditions
  | .obj [("$lookup", spec)] => (lookupOfJson spec).map .lookup
  | .obj [(name, _)] => .error (.unknownStage name)
  | .obj _ => .error .stageNotSingle
  | _ => .error .stageNotObject

/-- The lookups of all stages after the first. -/
def lookupsOfJson : List Json → Except QueryFault (List Lookup)
  | [] => .ok []
  | item :: more => do
    match ← stageOfJson item with
    | .lookup lookup => return lookup :: (← lookupsOfJson more)
    | .conditions _ => throw .laterMatch

def ofJson : Json → Except QueryFault Pipeline
  | .arr [] => .error .empty
  | .arr (item :: more) => do
    match ← stageOfJson item with
    | .conditions conditions => return { conditions, lookups := ← lookupsOfJson more }
    | .lookup _ => throw .firstNotMatch
  | _ => .error .notList

def lookupToJson (lookup : Lookup) : Json :=
  .obj [("$lookup", .obj (Fields.ofPairs [
    ("from", .str lookup.collection.text), ("localField", .str lookup.localField),
    ("foreignField", .str lookup.foreignField), ("as", .str lookup.output)]))]

/-- Conditions become the fields of an object: of two with one field the later stays. -/
def toJson (pipeline : Pipeline) : Json :=
  .arr (.obj [("$match", .obj (Fields.ofPairs pipeline.conditions))]
    :: pipeline.lookups.map lookupToJson)

end Pipeline

end DocStore
