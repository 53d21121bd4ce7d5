import DocStore.CollectionName
import DocStore.DocumentId
import DocStore.Json.Fault
import DocStore.Source

/-!
# Errors

Each error is the cause that it has, with the values that its report names. The eight kinds of
errors differ in the words that open the report. A panic is of none of these kinds: no one reports
it, and it ends what is being done as an error does.
-/

namespace DocStore

/-- Why a batch of documents is not stored. -/
inductive WriteFault where
  | invalidCollection (name : CollectionName)
  | notObject (position : Nat) (name : CollectionName)
  | invalidId (value : Json) (name : CollectionName)
  | duplicateId (id : DocumentId) (name : CollectionName)
  | refused (report : String)

/-- Why a pipeline is not run. -/
inductive QueryFault where
  | invalidCollection (name : CollectionName)
  | notList
  | empty
  | firstNotMatch
  | laterMatch
  | stageNotObject
  | stageNotSingle
  | unknownStage (name : String)
  | matchNotObject
  | matchField (name : String)
  | matchNotEquality (name : String)
  | lookupNotObject
  | lookupText (key : String)
  | lookupCollection (name : CollectionName)
  | lookupOutput (name : String)

/-- Why a search clause is not accepted. -/
inductive ClauseFault where
  | noEquals (part : String)
  | fieldName (name : String)
  | noValue (field : String)
  | emptyField
  | operatorField (name : String)
  | nulInField

/-- Why settings, or a request to start, are refused. -/
inductive SettingsFault where
  | unreadable (fault : Json.Fault)
  | unknownEngine (name : String)
  | blankStoreName
  | zeroBatchSize
  | zeroPageSize
  | unknownLevel (name : String)
  | alreadyStarted (name : String)

/-- Why a value cannot be turned into a record or back. -/
inductive RecordFault where
  | noIdentifier
  | negative (n : Int)

inductive Error where
  | sourceNotFound (path : String)
  | malformedInput (source : String) (fault : Json.Fault)
  | readFailure (source : String) (fault : ReadFault)
  | writeFailure (fault : WriteFault)
  | queryFailure (fault : QueryFault)
  | invalidClause (fault : ClauseFault)
  | settings (fault : SettingsFault)
  | notStarted
  | record (fault : RecordFault)
  /-- A panic: a buffer was asked for that is larger than any can be. -/
  | capacityOverflow

def WriteFault.message : WriteFault → String
  | .invalidCollection name => s!"Invalid collection name: '{name.text}'"
  | .notObject position name => s!"Document {position} of batch for '{name.text}' is not an object"
  | .invalidId value name => s!"Invalid _id {value.render} in batch for '{name.text}'"
  | .duplicateId id name => s!"Duplicate _id {id.display} in collection '{name.text}'"
  | .refused report => report

def QueryFault.message : QueryFault → String
  | .invalidCollection name => s!"Invalid collection name: '{name.text}'"
  | .notList => "Pipeline must be an array"
  | .empty => "Pipeline cannot be empty"
  | .firstNotMatch => "First pipeline stage must be $match"
  | .laterMatch => "$match may only appear as the first stage"
  | .stageNotObject => "Stage must be an object"
  | .stageNotSingle => "Each stage must have exactly one operator"
  | .unknownStage name => s!"Unknown pipeline stage: {name}"
  | .matchNotObject => "$match must be an object"
  | .matchField name => s!"Unsupported $match field: '{name}'"
  | .matchNotEquality name => s!"Only field equality is supported in $match (field '{name}')"
  | .lookupNotObject => "$lookup must be an object"
  | .lookupText key => s!"$lookup requires a string '{key}'"
  | .lookupCollection name => s!"Invalid $lookup collection: '{name.text}'"
  | .lookupOutput name => s!"Invalid $lookup output field: '{name}'"

def ClauseFault.message : ClauseFault → String
  | .noEquals part => s!"Expected field=value, got '{part}'"
  | .fieldName name => s!"Invalid field name '{name}'"
  | .noValue field => s!"Missing value for field '{field}'"
  | .emptyField => "Field name cannot be empty"
  | .operatorField name => s!"Field name '{name}' cannot start with '$'"
  | .nulInField => "Field name cannot contain NUL"

def SettingsFault.message : SettingsFault → String
  | .unreadable fault => s!"Invalid configuration: {fault.message}"
  | .unknownEngine name => s!"Unknown store engine in configuration: {name}"
  | .blankStoreName => "Store name cannot be empty"
  | .zeroBatchSize => "Batch size must be at least 1"
  | .zeroPageSize => "Page size must be at least 1"
  | .unknownLevel name => s!"Unknown log level: {name}"
  | .alreadyStarted name => s!"Store '{name}' is already started"

def RecordFault.message : RecordFault → String
  | .noIdentifier => "data did not match any variant of untagged enum DocumentId"
  | .negative n => s!"negative n: {n}"

def Error.message : Error → String
  | .sourceNotFound path => s!"JSON source not found: {path}"
  | .malformedInput source fault => s!"Malformed JSON in {source}: {fault.message}"
  | .readFailure source fault => s!"I/O failure while reading {source}: {fault.message}"
  | .writeFailure fault => s!"Write failure: {fault.message}"
  | .queryFailure fault => s!"Query failure: {fault.message}"
  | .invalidClause fault => s!"Invalid search clause: {fault.message}"
  | .settings fault => s!"Configuration error: {fault.message}"
  | .notStarted => "Store has not been started"
  | .record fault => s!"Serialization error: {fault.message}"
  | .capacityOverflow => "capacity overflow"

end DocStore
