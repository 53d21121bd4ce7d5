import DocStore.Load.Reading
import DocStore.Memory
import DocStore.Outcome
import DocStore.Settings
import DocStore.Store.Insert

/-!
# Loading in batches

A loader commits the documents of a source in batches of one size; the last batch may be smaller.
Room for a whole batch is made before its first document. The first thing that goes wrong ends the
load. Batches committed before it stay, and what is still buffered is dropped.
-/

namespace DocStore

/-- What takes in batches: it stores a batch as a whole or refuses it. -/
abbrev Gateway (σ : Type) := CollectionName → List Json → σ → Outcome σ Inserted

structure Loader where
  batchSize : Nat
  batchSize_pos : 0 < batchSize

/-- What a load has brought into a collection. -/
structure Summary where
  collection : CollectionName
  records : Nat
  batches : Nat

/-- A load under way. -/
structure Loading (σ : Type) where
  state : σ
  /-- Documents that wait for the next commit. -/
  buffer : List Json
  /-- How many documents are committed, and in how many batches. -/
  records : Nat
  batches : Nat
  lines : List Line

namespace Loader

variable {σ : Type}

def ofSize (batchSize : Nat) : Except SettingsFault Loader :=
  if h : 0 < batchSize then .ok ⟨batchSize, h⟩ else .error .zeroBatchSize

def standard : Loader := ⟨Settings.standardBatchSize.toNat, by decide⟩

def line (level : Level) (message : String) : Line := ⟨level, .loader, message⟩

def beginLine (collection : CollectionName) : Line :=
  line .info s!"Loading {collection.text}s into database ..."

def committedLine (collection : CollectionName) (size : Nat) (loading : Loading σ) : Line :=
  line .debug (s!"Committed batch {loading.batches} of {size} {collection.text}s "
    ++ s!"({loading.records} so far)")

def failedLine (collection : CollectionName) (source : String) (batches : Nat) (error : Error) :
    Line :=
  line .error (s!"Loading {collection.text}s from {source} failed after {batches} "
    ++ s!"committed batch(es): {error.message}")

/-- What is logged of a failure. A panic is not caught, so nothing is. -/
def failedLines (collection : CollectionName) (source : String) (batches : Nat) :
    Error → List Line
  | .capacityOverflow => []
  | error => [failedLine collection source batches error]

def finishedLine (summary : Summary) : Line :=
  line .debug (s!"Loading {summary.collection.text}s is finished ({summary.records} records, "
    ++ s!"{summary.batches} batches)")

/-- Commits a buffer that is not empty as one batch; the error, if the batch is refused. -/
def commit (gateway : Gateway σ) (collection : CollectionName) (loading : Loading σ) :
    Option Error × Loading σ :=
  let outcome := gateway collection loading.buffer loading.state
  let lines := loading.lines ++ outcome.lines
  let emptied := { loading with state := outcome.state, buffer := [], lines }
  match outcome.result with
  | .error error => (some error, emptied)
  | .ok _ =>
    let size := loading.buffer.length
    let counted := { emptied with
      records := loading.records + size, batches := loading.batches + 1 }
    (none, { counted with lines := lines ++ [committedLine collection size counted] })

/-- Commits the buffer, unless it is empty. Room for the next batch is made first. -/
def flush (loader : Loader) (memory : Memory) (gateway : Gateway σ) (collection : CollectionName)
    (loading : Loading σ) : Option Error × Loading σ :=
  if loading.buffer.isEmpty then (none, loading)
  else
    match memory.reserve loader.batchSize with
    | .error error => (some error, loading)
    | .ok () => commit gateway collection loading

/-- Buffers a document, and commits the buffer if that makes it full. -/
def push (loader : Loader) (memory : Memory) (gateway : Gateway σ) (collection : CollectionName)
    (document : Json) (loading : Loading σ) : Option Error × Loading σ :=
  let buffered := { loading with buffer := loading.buffer ++ [document] }
  if buffered.buffer.length = loader.batchSize then loader.flush memory gateway collection buffered
  else (none, buffered)

/-- Pushes documents until a batch is refused. -/
def pushAll (loader : Loader) (memory : Memory) (gateway : Gateway σ)
    (collection : CollectionName) : List Json → Loading σ → Option Error × Loading σ
  | [], loading => (none, loading)
  | document :: rest, loading =>
    match loader.push memory gateway collection document loading with
    | (none, loading) => pushAll loader memory gateway collection rest loading
    | stopped => stopped

def errorOf (source : String) : Json.Failure → Error
  | .fault fault => .malformedInput source fault
  | .broken fault => .readFailure source fault

/-- What goes wrong at the end of the reading, where the remainder is committed if the list of
records is complete. -/
def finish (loader : Loader) (memory : Memory) (gateway : Gateway σ) (collection : CollectionName)
    (source : String) (ending : Ending) (loading : Loading σ) : Option Error × Loading σ :=
  match ending with
  | .failed failure => (some (errorOf source failure), loading)
  | .unwritable fault => (some (.record fault), loading)
  | .closed => loader.flush memory gateway collection loading
  | .spoiled failure =>
    match loader.flush memory gateway collection loading with
    | (none, loading) => (some (errorOf source failure), loading)
    | stopped => stopped

/-- A load before any document. -/
def atStart (collection : CollectionName) (state : σ) : Loading σ :=
  { state, buffer := [], records := 0, batches := 0, lines := [beginLine collection] }

/-- Begins a load: makes room for the first batch. -/
def begun (loader : Loader) (memory : Memory) (collection : CollectionName) (state : σ) :
    Option Error × Loading σ :=
  match memory.reserve loader.batchSize with
  | .error error => (some error, atStart collection state)
  | .ok () => (none, atStart collection state)

/-- Loads what has been read. -/
def run (loader : Loader) (memory : Memory) (gateway : Gateway σ) (collection : CollectionName)
    (source : String) (reading : Reading) (state : σ) : Option Error × Loading σ :=
  match loader.begun memory collection state with
  | (none, loading) =>
    match loader.pushAll memory gateway collection reading.documents loading with
    | (none, loading) => loader.finish memory gateway collection source reading.ending loading
    | stopped => stopped
  | stopped => stopped

/-- Loads the records of a source, which reports call `name`, into a collection. -/
def load (loader : Loader) (memory : Memory) (gateway : Gateway σ) (record : RecordReader)
    (collection : CollectionName) (name : String) (source : Source) (state : σ) :
    Outcome σ Summary :=
  match loader.run memory gateway collection name (.ofSource record source) state with
  | (some error, loading) =>
    { result := .error error
      lines := loading.lines ++ failedLines collection name loading.batches error
      state := loading.state }
  | (none, loading) =>
    let summary : Summary := ⟨collection, loading.records, loading.batches⟩
    { result := .ok summary
      lines := loading.lines ++ [finishedLine summary]
      state := loading.state }

section

variable {loader : Loader} {memory : Memory}

theorem begun_of_le (h : loader.batchSize ≤ memory.capacity) (collection : CollectionName)
    (state : σ) : loader.begun memory collection state = (none, atStart collection state) := by
  rw [begun, Memory.reserve_of_le h]

/-- With room for a batch, a buffer that is not empty is committed. -/
theorem flush_of_le (h : loader.batchSize ≤ memory.capacity) (gateway : Gateway σ)
    (collection : CollectionName) {loading : Loading σ} (hbuffer : loading.buffer ≠ []) :
    loader.flush memory gateway collection loading = commit gateway collection loading := by
  have hempty : loading.buffer.isEmpty = false := by simpa using hbuffer
  rw [flush, hempty, Memory.reserve_of_le h]
  rfl

theorem flush_of_empty (loader : Loader) (memory : Memory) (gateway : Gateway σ)
    (collection : CollectionName) {loading : Loading σ} (hbuffer : loading.buffer = []) :
    loader.flush memory gateway collection loading = (none, loading) := by
  simp [flush, hbuffer]

/-- Without room for a batch a load panics before it looks at its source. -/
theorem load_of_lt (h : memory.capacity < loader.batchSize) (gateway : Gateway σ)
    (record : RecordReader) (collection : CollectionName) (name : String) (source : Source)
    (state : σ) :
    loader.load memory gateway record collection name source state =
      { result := .error .capacityOverflow, lines := [beginLine collection], state } := by
  simp [load, run, begun, Memory.reserve_of_lt h, failedLines, atStart]

/-- Nothing is loaded without room for a batch. -/
theorem fits_of_ok {gateway : Gateway σ} {record : RecordReader} {collection : CollectionName}
    {name : String} {source : Source} {state : σ} {summary : Summary}
    (hok : (loader.load memory gateway record collection name source state).result =
      .ok summary) : loader.batchSize ≤ memory.capacity := by
  refine Nat.not_lt.1 fun hlarge => ?_
  rw [load_of_lt hlarge] at hok
  cases hok

end

def missingLine (path : String) : Line := line .error s!"JSON file not found({path})"

def refusedLine (path : String) (fault : ReadFault) : Line :=
  line .error s!"Could not open JSON file({path}): {fault.message}"

/-- Loads the records of a file. One that cannot be opened leaves the gateway alone. -/
def loadFile (loader : Loader) (memory : Memory) (gateway : Gateway σ) (record : RecordReader)
    (collection : CollectionName) (path : String) (opened : Opened) (state : σ) :
    Outcome σ Summary :=
  match opened with
  | .missing => { result := .error (.sourceNotFound path), lines := [missingLine path], state }
  | .refused fault =>
    { result := .error (.readFailure path fault), lines := [refusedLine path fault], state }
  | .source source => loader.load memory gateway record collection path source state

end Loader

end DocStore
