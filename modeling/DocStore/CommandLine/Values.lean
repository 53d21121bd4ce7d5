import DocStore.Join
import DocStore.Text.Blank
import DocStore.Text.Count

/-!
# Values of options

What is to be loaded is written `collection=path`, and a join `left.field=right.field`, where the
fields may be dotted paths.
-/

namespace DocStore.CommandLine

/-- Why the value of an option is refused. -/
inductive ValueFault where
  | notLoad (text : String)
  | collectionName (name : CollectionName)
  | noPath (name : CollectionName)
  | notJoin (text : String)
  | notField (text : String)
  | count (fault : Text.CountFault)

def ValueFault.message : ValueFault → String
  | .notLoad text => s!"expected collection=path, got '{text}'"
  | .collectionName name => s!"invalid collection name '{name.text}'"
  | .noPath name => s!"missing file path for '{name.text}'"
  | .notJoin text => s!"expected left.field=right.field, got '{text}'"
  | .notField text => s!"expected collection.field, got '{text}'"
  | .count fault => fault.message

/-- A file and the collection to load it into. -/
structure LoadSpec where
  collection : CollectionName
  path : String
  deriving DecidableEq

/-- Reads `collection=path`. Blanks around both do not count. -/
def parseLoad (text : String) : Except ValueFault LoadSpec :=
  match Text.splitOnce? '=' text with
  | none => .error (.notLoad text)
  | some (name, path) =>
    let collection : CollectionName := ⟨Text.trim name⟩
    let path := Text.trim path
    if ¬ collection.Valid then .error (.collectionName collection)
    else if path = "" then .error (.noPath collection)
    else .ok { collection, path }

/-- Reads one side of a join: a valid name, the first dot, and a field. -/
def parseSide (text : String) : Except ValueFault (CollectionName × String) :=
  let side := Text.trim text
  match Text.splitOnce? '.' side with
  | none => .error (.notField side)
  | some (name, field) =>
    let collection : CollectionName := ⟨name⟩
    if ¬ collection.Valid ∨ field = "" then .error (.notField side)
    else .ok (collection, field)

/-- Reads `left.field=right.field`. Blanks around each side do not count. -/
def parseJoin (text : String) : Except ValueFault Join :=
  match Text.splitOnce? '=' text with
  | none => .error (.notJoin text)
  | some (left, right) => do
    let (left, leftField) ← parseSide left
    let (right, rightField) ← parseSide right
    return { left, leftField, right, rightField }

def parseBatchSize (text : String) : Except ValueFault UInt64 :=
  match Text.count text with
  | .ok size => .ok size.toUInt64
  | .error fault => .error (.count fault)

end DocStore.CommandLine
