import DocStore.Error
import DocStore.Json.Reader.Layout

/-!
# Record types

A record type says how its records are read from JSON and which document is stored for each of
them. Reading can succeed where no document can be written.
-/

namespace DocStore

/-- Reads a record and writes its document. -/
abbrev RecordReader := Json.Reader (Except RecordFault Json)

structure RecordType where
  name : String
  record : RecordReader

/-- The collection of the records of a type. -/
def RecordType.collection (type : RecordType) : CollectionName := .ofTypeName type.name

/-- Records without a type: any object, stored as it is. It stands inside the list of records, so
one level of nesting is used up. -/
def untyped : RecordReader := do
  return .ok (← Json.Reader.object (Json.Reader.depthLimit - 1))

/-- Reads back an identifier that was written as a value. -/
def DocumentId.decode (value : Json) : Except RecordFault DocumentId :=
  match DocumentId.ofJson? value with
  | some id => .ok id
  | none => .error .noIdentifier

namespace Record

/-- The fields of a document under construction. -/
abbrev Draft := List (String × Json)

open Json

def integer (value : Int) : Json := .num (.int (.ofInt64 (Int64.ofInt value)))

def int64 : Reader Int :=
  Reader.integer (-0x8000000000000000) 0x7FFFFFFFFFFFFFFF "i64"

/-- A field whose value is read by `value` and always written. -/
def slot (name : String) (required : Bool) (value : Reader Json) : Slot Draft where
  name
  required
  read := fun draft => return Fields.insert name (← value) draft

def text (name : String) : Slot Draft := slot name true (return .str (← Reader.text))

def whole (name : String) : Slot Draft := slot name true (return integer (← int64))

/-- A number or null, which is written as null. -/
def wholeOrNull (name : String) : Slot Draft :=
  slot name false (return (← Reader.nullOr int64).elim .null integer)

/-- A number or null, which is left out. -/
def wholeOrAbsent (name : String) : Slot Draft where
  name
  required := false
  read := fun draft => return match ← Reader.nullOr int64 with
    | some value => Fields.insert name (integer value) draft
    | none => draft

def texts (name : String) : Slot Draft :=
  slot name false (return .arr ((← Reader.listOf Reader.text).map .str))

/-- A record type with these fields, where `blank` holds the values of those that may be missing. -/
def type (name : String) (slots : List (Slot Draft)) (blank : Draft) : RecordType where
  name
  record := do
    let layout : Layout Draft := { title := s!"struct {name}", slots, blank, strict := false }
    return .ok (.obj (← layout.reader))

end Record

end DocStore
