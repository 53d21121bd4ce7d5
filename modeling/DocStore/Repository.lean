import DocStore.Load.Loader
import DocStore.Search.Compile
import DocStore.Store.Cursor

/-!
# Repositories

A repository is a store with its declared joins and a loader. It must be started before anything is
loaded or searched.
-/

namespace DocStore

structure Repository where
  store : Store
  joins : Joins
  loader : Loader

namespace Repository

def line (level : Level) (message : String) : Line := ⟨level, .repository, message⟩

/-- The store for these settings, if they are valid as a whole. -/
def openStore (settings : Settings) : Report Store :=
  match settings.validate with
  | .error fault =>
    let error : Error := .settings fault
    { result := .error error, lines := [line .error error.message] }
  | .ok () => { result := (Store.ofSettings settings).mapError .settings, lines := [] }

/-- A repository on a store. Of the settings only the batch size is used, and checked. -/
def ofStore (settings : Settings) (store : Store) : Except Error Repository :=
  match Loader.ofSize settings.batchSize.toNat with
  | .error fault => .error (.settings fault)
  | .ok loader => .ok { store, joins := [], loader }

/-- A repository on the store for these settings. -/
def ofSettings (settings : Settings) : Report Repository :=
  let opened := openStore settings
  { opened with result := opened.result.bind (ofStore settings) }

/-- A repository with the logger that the settings ask for, and the lines that this logger takes. -/
def withLogger (settings : Settings) : Report (Repository × Logger) :=
  match settings.logger with
  | .error fault => { result := .error (.settings fault), lines := [] }
  | .ok logger =>
    let opened := ofSettings settings
    { result := opened.result.map (·, logger), lines := admitted logger.level opened.lines }

def startingLine : Line := line .info "Starting database server ..."

def startedLine : Line := line .debug "Database server started"

def notStartedLine (name : String) (error : Error) : Line :=
  line .error s!"Could not start store '{name}': {error.message}"

def start (name label : String) (repository : Repository) : Outcome Repository Unit :=
  let started := repository.store.start name label
  let closing := match started.result with
    | .ok () => startedLine
    | .error error => notStartedLine name error
  { result := started.result
    lines := startingLine :: started.lines ++ [closing]
    state := { repository with store := started.state } }

def stop (repository : Repository) : Outcome Repository Unit :=
  let stopped := repository.store.stop
  { stopped with state := { repository with store := stopped.state } }

/-- Loads the records of a file into a collection. -/
def load (memory : Memory) (record : RecordReader) (collection : CollectionName) (path : String)
    (opened : Opened) (repository : Repository) : Outcome Repository Summary :=
  if repository.store.isStarted then
    let loaded := repository.loader.loadFile memory Store.insertMany record collection path opened
      repository.store
    { loaded with state := { repository with store := loaded.state } }
  else { result := .error .notStarted, lines := [], state := repository }

def declare (join : Join) (repository : Repository) : Repository :=
  { repository with joins := repository.joins.declare join }

def searchFailedLine (collection : CollectionName) (error : Error) : Line :=
  line .error s!"Search on '{collection.text}' failed: {error.message}"

/-- A cursor on the documents of a collection that satisfy a clause, with what is joined to them. -/
def search (collection : CollectionName) (clause : Clause) (repository : Repository) :
    Report Cursor :=
  if repository.store.isStarted then
    let compiled := Search.compile collection clause repository.joins
    match compiled.result with
    | .error error => { result := .error error, lines := compiled.lines }
    | .ok pipeline =>
      let opened := repository.store.aggregate collection pipeline
      let closing := match opened.result with
        | .ok _ => []
        | .error error => [searchFailedLine collection error]
      { result := opened.result, lines := compiled.lines ++ opened.lines ++ closing }
  else { result := .error .notStarted, lines := [] }

end Repository

end DocStore
