import DocStore.Store.Basic

/-!
# Inserting batches

A batch is staged against the collection before anything is stored, so that it is stored as a whole
or not at all. A document without an identifier, or with a null one, gets the number after the
greatest one.
-/

namespace DocStore

/-- What an insert has stored. -/
structure Inserted where
  ids : List DocumentId
  count : Nat

/-- The documents of a batch that are accepted so far. -/
structure Staged where
  documents : List Json
  ids : List DocumentId
  lastId : UInt64

namespace Staged

/-- The greatest number among the identifiers, after `id` has come. -/
def raised (lastId : UInt64) : DocumentId → UInt64
  | .int value => if lastId.toInt64 < value then value.toUInt64 else lastId
  | .text _ => lastId

/-- The fields of a document with its identifier in them, and the number to go on from. -/
def identify (collection : CollectionName) (lastId : UInt64) (fields : List (String × Json)) :
    Except WriteFault (List (String × Json) × DocumentId × UInt64) :=
  let generated :=
    let id := DocumentId.after lastId
    (Fields.insert DocumentId.field id.toJson fields, id, lastId + 1)
  match Fields.get? DocumentId.field fields with
  | none => .ok generated
  | some .null => .ok generated
  | some value =>
    match DocumentId.ofJson? value with
    | some id => .ok (fields, id, raised lastId id)
    | none => .error (.invalidId value collection)

/-- Accepts one more document if its identifier is neither stored nor staged. -/
def add (collection : CollectionName) (stored : Collection) (staged : Staged) (document : Json) :
    Except WriteFault Staged :=
  match document with
  | .obj fields => do
    let (fields, id, lastId) ← identify collection staged.lastId fields
    if id ∈ stored.ids ∨ id ∈ staged.ids then throw (.duplicateId id collection)
    return { documents := staged.documents ++ [.obj fields], ids := staged.ids ++ [id], lastId }
  | _ => .error (.notObject staged.documents.length collection)

end Staged

/-- All documents of a batch, accepted one after the other. -/
def Collection.stage (stored : Collection) (name : CollectionName) (batch : List Json) :
    Except WriteFault Staged :=
  batch.foldlM (Staged.add name stored) { documents := [], ids := [], lastId := stored.lastId }

def Collection.append (stored : Collection) (staged : Staged) : Collection where
  documents := stored.documents ++ staged.documents
  ids := stored.ids ++ staged.ids
  lastId := staged.lastId

def insertedLine (name : CollectionName) (staged : Staged) (after : Collection) : Line :=
  Store.line .trace
    s!"Inserted {staged.ids.length} documents into '{name.text}' ({after.documents.length} total)"

/-- Stores a batch in a collection, which is made if there is none. -/
def Store.insertMany (name : CollectionName) (batch : List Json) (store : Store) :
    Outcome Store Inserted :=
  let refuse (error : Error) : Outcome Store Inserted :=
    { result := .error error, lines := [], state := store }
  if ¬ name.Valid then refuse (.writeFailure (.invalidCollection name))
  else
    match store.session with
    | none => refuse .notStarted
    | some session =>
      let stored := (session.collection? name).getD .empty
      match stored.stage name batch with
      | .error fault => refuse (.writeFailure fault)
      | .ok staged =>
        let collection := stored.append staged
        let collections := Fields.insert name.text collection session.collections
        { result := .ok { ids := staged.ids, count := staged.ids.length }
          lines := [insertedLine name staged collection]
          state := { store with session := some { session with collections } } }

end DocStore
