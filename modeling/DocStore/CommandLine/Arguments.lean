import DocStore.CommandLine.Values
import DocStore.Settings

/-!
# Arguments

The command line is a command and its options, as `--name value` or `--name=value`. The value of an
option in two arguments is judged only when the next option or the end of the line comes. So an
argument that fits nowhere is reported first, and so is a value attached to an option without one.
-/

namespace DocStore.CommandLine

/-- Why the arguments do not lead to a command that is run. -/
inductive Usage where
  | help
  | version
  | noCommand
  | unknownCommand
  | unknownArgument
  | missingOption
  | missingValue
  | surplusValue
  | repeatedOption
  | invalidValue (fault : ValueFault)

/-- Help and version are what was asked for; all else is an error. -/
def Usage.exitCode : Usage → Nat
  | .help => 0
  | .version => 0
  | _ => 2

/-- Where the documents come from, and the settings for loading them. -/
structure Sources where
  loads : List LoadSpec
  store : String
  engine : String
  batchSize : UInt64
  logLevel : String

def Sources.settings (sources : Sources) : Settings :=
  { Settings.standard with
    engine := sources.engine
    storeName := sources.store
    batchSize := sources.batchSize
    logLevel := sources.logLevel }

inductive Command where
  | search (collection query : String) (joins : List Join) (sources : Sources)
  | fields (collection : String) (sources : Sources)

/-- The values of the options that have come so far. -/
structure Options where
  /-- The names of these options. -/
  given : List String
  collection : Option String
  query : String
  joins : List Join
  sources : Sources

def Options.initial : Options where
  given := []
  collection := none
  query := ""
  joins := []
  sources := {
    loads := []
    store := Settings.standardStoreName
    engine := Settings.memoryEngine
    batchSize := Settings.standardBatchSize
    logLevel := "warn" }

/-- An option, and what its value changes. -/
structure Flag where
  name : String
  repeatable : Bool
  set : String → Options → Except ValueFault Options

namespace Flag

/-- An option that takes any text. -/
def text (name : String) (set : String → Options → Options) : Flag where
  name
  repeatable := false
  set := fun value options => .ok (set value options)

/-- An option that changes the sources. -/
def source (name : String) (set : String → Sources → Sources) : Flag :=
  text name fun value options => { options with sources := set value options.sources }

/-- The options of every command. -/
def shared : List Flag := [
  text "collection" fun value options => { options with collection := some value },
  { name := "load"
    repeatable := true
    set := fun value options => do
      let load ← parseLoad value
      let sources := { options.sources with loads := options.sources.loads ++ [load] }
      return { options with sources } },
  source "store" fun value sources => { sources with store := value },
  source "engine" fun value sources => { sources with engine := value },
  { name := "batch-size"
    repeatable := false
    set := fun value options => do
      let batchSize ← parseBatchSize value
      return { options with sources := { options.sources with batchSize } } },
  source "log-level" fun value sources => { sources with logLevel := value }]

/-- The options of a search. -/
def ofSearch : List Flag := shared ++ [
  text "query" fun value options => { options with query := value },
  { name := "join"
    repeatable := true
    set := fun value options => do
      return { options with joins := options.joins ++ [← parseJoin value] } }]

/-- Takes in the value of the option. -/
def give (flag : Flag) (value : String) (options : Options) : Except Usage Options :=
  if flag.name ∈ options.given ∧ !flag.repeatable then .error .repeatedOption
  else
    match flag.set value options with
    | .ok options => .ok { options with given := options.given ++ [flag.name] }
    | .error fault => .error (.invalidValue fault)

end Flag

/-- An option in two arguments that is not judged yet. -/
structure Pending where
  flag : Flag
  value : Option String

/-- Judges the option that is pending. -/
def settle (pending : Option Pending) (options : Options) : Except Usage Options :=
  match pending with
  | none => .ok options
  | some { value := none, .. } => .error .missingValue
  | some { flag, value := some value } => flag.give value options

/-- The name in an argument that begins with two dashes, and the value behind an equals sign. -/
def longName (rest : List Char) : String × Option String :=
  match Text.cut? '=' rest with
  | some (name, value) => (String.ofList name, some (String.ofList value))
  | none => (String.ofList rest, none)

/-- Reads the options of a command. -/
def readOptions (flags : List Flag) : List String → Option Pending → Options → Except Usage Options
  | [], pending, options => settle pending options
  | argument :: more, pending, options =>
    match argument.toList with
    | ['-', '-'] => if more.isEmpty then settle pending options else .error .unknownArgument
    | '-' :: '-' :: rest => do
      let (name, attached) := longName rest
      if name = "help" then
        if attached.isSome then throw .surplusValue
        let _ ← settle pending options
        throw .help
      match flags.find? (·.name = name) with
      | none => throw .unknownArgument
      | some flag =>
        let options ← settle pending options
        match attached with
        | some value => readOptions flags more none (← flag.give value options)
        | none => readOptions flags more (some ⟨flag, none⟩) options
    | '-' :: 'h' :: _ => do
      let _ ← settle pending options
      throw .help
    | '-' :: _ :: _ => .error .unknownArgument
    | _ =>
      match pending with
      | some { flag, value := none } => readOptions flags more (some ⟨flag, argument⟩) options
      | _ => .error .unknownArgument

/-- The options of a command and the collection, which must be among them. -/
def withCollection (flags : List Flag) (arguments : List String)
    (command : String → Options → Command) : Except Usage Command := do
  let options ← readOptions flags arguments none .initial
  match options.collection with
  | some collection => return command collection options
  | none => throw .missingOption

/-- The names of the commands that are run. -/
def commandNames : List String := ["search", "fields"]

/-- What help on a topic comes to: a topic is one command, or the help itself. -/
def helpOn : List String → Usage
  | [] => .help
  | [topic] => if topic ∈ "help" :: commandNames then .help else .unknownCommand
  | _ => .unknownCommand

/-- Reads an option that stands before any command. -/
def readTopOption (rest : List Char) : Usage :=
  match longName rest with
  | ("help", none) => .help
  | ("version", none) => .version
  | ("help", some _) => .surplusValue
  | ("version", some _) => .surplusValue
  | _ => .unknownArgument

def readCommand : List String → Except Usage Command
  | [] => .error .noCommand
  | ["--"] => .error .noCommand
  | "--" :: word :: _ =>
    .error (if word ∈ "help" :: commandNames then .unknownArgument else .unknownCommand)
  | "search" :: arguments =>
    withCollection Flag.ofSearch arguments fun collection options =>
      .search collection options.query options.joins options.sources
  | "fields" :: arguments =>
    withCollection Flag.shared arguments fun collection options =>
      .fields collection options.sources
  | "help" :: topics => .error (helpOn topics)
  | word :: _ =>
    match word.toList with
    | '-' :: '-' :: rest => .error (readTopOption rest)
    | '-' :: 'h' :: _ => .error .help
    | '-' :: 'V' :: _ => .error .version
    | '-' :: _ :: _ => .error .unknownArgument
    | _ => .error .unknownCommand

end DocStore.CommandLine
