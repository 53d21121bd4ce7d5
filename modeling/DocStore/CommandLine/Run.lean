import DocStore.CommandLine.Arguments
import DocStore.Repository

/-!
# Running commands

A command opens a store, loads the files named on the command line into it and then searches it. It
prints results to one channel and everything else, log lines included, to the other.
-/

namespace DocStore.CommandLine

/-- What has been printed, line by line. -/
structure Console where
  results : List String
  notes : List String

/-- Why a command failed: what it was doing, and the error. -/
structure Failure where
  doing : String
  error : Error

/-- The texts of a failure, from what was being done to the cause. -/
def Failure.chain (failure : Failure) : List String := [failure.doing, failure.error.message]

/-- A run that prints, and may fail with what it has printed so far kept. -/
abbrev Run := ExceptT Failure (StateM Console)

namespace Run

variable {σ α : Type}

/-- How a run ends, and what is printed then, if it starts with this console. -/
def on (run : Run α) (console : Console) : Except Failure α × Console := run.run.run console

def printResult (line : String) : Run Unit :=
  modify fun console => { console with results := console.results ++ [line] }

def printNote (line : String) : Run Unit :=
  modify fun console => { console with notes := console.notes ++ [line] }

/-- Prints the log lines that the level lets through. -/
def printLog (level : Level) (lines : List Line) : Run Unit :=
  ((admitted level lines).map Line.render).forM printNote

/-- Goes on with a result, or fails where `doing` was under way. -/
def orFail (doing : String) : Except Error α → Run α
  | .ok value => return value
  | .error error => throw { doing, error }

/-- Prints what an operation logged and goes on with its result and its state. -/
def outcome (level : Level) (doing : String) (outcome : Outcome σ α) : Run (α × σ) := do
  printLog level outcome.lines
  return (← orFail doing outcome.result, outcome.state)

def report (level : Level) (doing : String) (report : Report α) : Run α := do
  printLog level report.lines
  orFail doing report.result

end Run

open Run

/-- The world that a command works in. -/
structure Surroundings where
  openFile : String → Opened
  /-- What log lines call the session. -/
  label : String
  memory : Memory

/-- Opens the repository that the settings describe, and its log level. -/
def openRepository (settings : Settings) : Run (Repository × Level) := do
  let opened := Repository.withLogger settings
  (opened.lines.map Line.render).forM printNote
  let (repository, logger) ← orFail "Failed to open store" opened.result
  return (repository, logger.level)

/-- A file as it is loaded untyped into its collection. -/
def loadUntyped (surroundings : Surroundings) (load : LoadSpec) (repository : Repository) :
    Outcome Repository Summary :=
  repository.load surroundings.memory untyped load.collection load.path
    (surroundings.openFile load.path)

def loadingDoing (load : LoadSpec) : String :=
  s!"Failed to load {load.path} into '{load.collection.text}'"

def loadedNote (summary : Summary) : String :=
  s!"Loaded {summary.records} documents into '{summary.collection.text}' "
    ++ s!"({summary.batches} batches)"

/-- Loads all files in order; the first that fails ends the command. -/
def loadAll (surroundings : Surroundings) (level : Level) :
    List LoadSpec → Repository → Run Repository
  | [], repository => return repository
  | load :: more, repository => do
    let (summary, repository) ← outcome level (loadingDoing load)
      (loadUntyped surroundings load repository)
    printNote (loadedNote summary)
    loadAll surroundings level more repository

/-- Takes each result of a cursor into account as it comes, up to the end or to an error. The cursor
is called `fuel` times at most. -/
def forResults {β : Type} (level : Level) (doing : String) (store : Store)
    (each : β → Json → Run β) : Nat → Cursor → β → Run β
  | 0, _, taken => return taken
  | fuel + 1, cursor, taken => do
    let (answer, cursor) ← outcome level doing (cursor.next store)
    match answer with
    | none => return taken
    | some document =>
      let taken ← each taken document
      forResults level doing store each fuel cursor taken

/-- Goes through all results of a cursor. -/
def allResults {β : Type} (level : Level) (doing : String) (store : Store)
    (each : β → Json → Run β) (cursor : Cursor) (taken : β) : Run β :=
  forResults level doing store each (cursor.bound store + 1) cursor taken

/-- Prints a result and counts it. -/
def showResult (total : Nat) (document : Json) : Run Nat := do
  printResult document.render
  return total + 1

def totalNote (total : Nat) (collection : String) : String :=
  s!"Total: {total} result(s) in '{collection}'"

/-- Searches a collection of a loaded repository and prints each result as it comes. -/
def printSearch (level : Level) (collection query : String) (repository : Repository) :
    Run Unit := do
  let clause ← orFail s!"Invalid query: {query}" ((Clause.parse query).mapError .invalidClause)
  let cursor ← report level s!"Search on '{collection}' failed"
    (repository.search ⟨collection⟩ clause)
  let total ← allResults level s!"Failed to read results from '{collection}'" repository.store
    showResult cursor 0
  printNote (totalNote total collection)

/-- Declares joins in the order in which they are given. -/
def declareAll (joins : List Join) (repository : Repository) : Repository :=
  joins.foldl (fun repository join => repository.declare join) repository

/-- Declares all joins, loads all files and then searches. -/
def runSearch (surroundings : Surroundings) (level : Level) (collection query : String)
    (joins : List Join) (loads : List LoadSpec) (repository : Repository) : Run Unit := do
  let repository ← loadAll surroundings level loads (declareAll joins repository)
  printSearch level collection query repository

/-- The names of the top-level fields of a document. -/
def fieldNames : Json → List String
  | .obj fields => fields.map (·.1)
  | _ => []

/-- Adds the names of a document's fields to those known before. -/
def addNames (names : List (String × Unit)) (document : Json) : List (String × Unit) :=
  (fieldNames document).foldl (fun names name => Fields.insert name () names) names

/-- The names of all top-level fields in a collection, each once and in order. -/
def collectFields (surroundings : Surroundings) (level : Level) (collection : String)
    (loads : List LoadSpec) (repository : Repository) : Run (List String) := do
  let repository ← loadAll surroundings level loads repository
  let cursor ← report level s!"Failed to scan '{collection}'"
    (repository.search ⟨collection⟩ .empty)
  let names ← allResults level s!"Failed to read '{collection}'" repository.store
    (fun names document => return addNames names document) cursor []
  return names.map (·.1)

/-- Runs `body` on a started repository and stops it, also if `body` fails. -/
def withRepository {α : Type} (surroundings : Surroundings) (sources : Sources)
    (body : Level → Repository → Run α) : Run α := do
  let settings := sources.settings
  let (repository, level) ← openRepository settings
  let ((), repository) ← outcome level s!"Failed to start store '{settings.storeName}'"
    (repository.start settings.storeName surroundings.label)
  tryFinally (body level repository) (printLog level repository.stop.lines)

def run (surroundings : Surroundings) : Command → Run Unit
  | .search collection query joins sources =>
    withRepository surroundings sources fun level repository =>
      runSearch surroundings level collection query joins sources.loads repository
  | .fields collection sources => do
    let names ← withRepository surroundings sources fun level repository =>
      collectFields surroundings level collection sources.loads repository
    names.forM printResult

/-- What a command prints, and the failure that it ends with, if any. -/
def execute (surroundings : Surroundings) (command : Command) : Console × Option Failure :=
  match (run surroundings command).on { results := [], notes := [] } with
  | (.ok (), console) => (console, none)
  | (.error failure, console) => (console, some failure)

end DocStore.CommandLine
