import DocStore.Memory
import DocStore.Pipeline.Form
import DocStore.Store.Basic

/-!
# Cursors

A cursor yields the results of a pipeline in the order of the collection. It fetches a page at a
time: it runs the pipeline on further documents until the page is full or the collection ends. Once
it has seen the end it lets go of the store. After the store has stopped a cursor yields what it has
already fetched, then fails once, then ends.
-/

namespace DocStore

structure Cursor where
  /-- The session that is read; none once the end was reached or the cursor is closed. -/
  session : Option Nat
  collection : CollectionName
  pipeline : Pipeline
  /-- How many documents of the collection have been looked at. -/
  position : Nat
  pageSize : Nat
  pageSize_pos : 0 < pageSize
  /-- Results that are fetched and not yet yielded. -/
  buffer : List Json

def aggregatingLine (collection : CollectionName) (pipeline : Pipeline) : Line :=
  Store.line .debug
    s!"Aggregating '{collection.text}' with {pipeline.lookups.length} lookup stage(s)"

/-- Opens a cursor on the results of a pipeline. What is run is the written form of the pipeline,
so that nothing is run which could not be written. -/
def Store.aggregate (collection : CollectionName) (pipeline : Pipeline) (store : Store) :
    Report Cursor :=
  let refuse (error : Error) : Report Cursor := { result := .error error, lines := [] }
  if ¬ collection.Valid then refuse (.queryFailure (.invalidCollection collection))
  else
    match Pipeline.ofJson pipeline.toJson with
    | .error fault => refuse (.queryFailure fault)
    | .ok pipeline =>
      match store.session with
      | none => refuse .notStarted
      | some session =>
        { result := .ok {
            session := some session.number, collection, pipeline, position := 0,
            pageSize := store.pageSize, pageSize_pos := store.pageSize_pos, buffer := [] }
          lines := [aggregatingLine collection pipeline] }

namespace Cursor

/-- Looks at documents until there are `room` results: how many were looked at, and the results. -/
def scan (apply : Json → Option Json) : Nat → List Json → Nat × List Json
  | 0, _ => (0, [])
  | _, [] => (0, [])
  | room + 1, document :: rest =>
    match apply document with
    | some result =>
      let (seen, results) := scan apply room rest
      (seen + 1, result :: results)
    | none =>
      let (seen, results) := scan apply (room + 1) rest
      (seen + 1, results)

theorem scan_seen_le (apply : Json → Option Json) (room : Nat) (documents : List Json) :
    (scan apply room documents).1 ≤ documents.length := by
  fun_induction scan apply room documents with
  | case1 => simp
  | case2 => simp
  | case3 room document rest result h seen results heq ih =>
    simp only [heq, List.length_cons] at ih ⊢
    omega
  | case4 room document rest h seen results heq ih =>
    simp only [heq, List.length_cons] at ih ⊢
    omega

/-- The results are those of the documents looked at, in their order. -/
theorem scan_results (apply : Json → Option Json) (room : Nat) (documents : List Json) :
    (scan apply room documents).2
      = (documents.take (scan apply room documents).1).filterMap apply := by
  fun_induction scan apply room documents with
  | case1 => simp
  | case2 => simp
  | case3 room document rest result h seen results heq ih =>
    simp only [heq] at ih
    simp [h, ih]
  | case4 room document rest h seen results heq ih =>
    simp only [heq] at ih
    simp [h, ih]

/-- A page that is not full has seen all documents. -/
theorem scan_seen_of_length_lt (apply : Json → Option Json) (room : Nat) (documents : List Json)
    (h : (scan apply room documents).2.length < room) :
    (scan apply room documents).1 = documents.length := by
  fun_induction scan apply room documents with
  | case1 => simp at h
  | case2 => rfl
  | case3 room document rest result happly seen results heq ih =>
    simp only [heq, List.length_cons] at ih h ⊢
    rw [ih (by omega)]
  | case4 room document rest happly seen results heq ih =>
    simp only [heq, List.length_cons] at ih h ⊢
    rw [ih h]

def scannedLine (cursor : Cursor) (seen : Nat) (results : List Json) : Line :=
  Store.line .trace
    s!"Cursor on '{cursor.collection.text}' scanned {seen} documents, {results.length} buffered"

/-- The open session that the cursor reads, if it is still the one it was opened on. -/
def liveSession? (cursor : Cursor) (store : Store) : Option Session :=
  store.session.filter fun session => cursor.session = some session.number

/-- Fetches the next page of a session into the empty buffer. -/
def readPage (cursor : Cursor) (session : Session) : Outcome Cursor Unit :=
  let documents := session.documents cursor.collection
  let (seen, results) := scan (cursor.pipeline.apply session.documents) cursor.pageSize
    (documents.drop cursor.position)
  let position := cursor.position + seen
  { result := .ok ()
    lines := [cursor.scannedLine seen results]
    state := { cursor with
      position
      buffer := results
      session := if documents.length ≤ position then none else cursor.session } }

/-- Fetches the next page, if the end was not reached before. -/
def fetch (store : Store) (cursor : Cursor) : Outcome Cursor Unit :=
  if cursor.session = none then { result := .ok (), lines := [], state := cursor }
  else
    match cursor.liveSession? store with
    | some session => cursor.readPage session
    | none =>
      { result := .error .notStarted, lines := [], state := { cursor with session := none } }

/-- Takes the first result out of the buffer. -/
def pop (cursor : Cursor) : Option Json × Cursor :=
  match cursor.buffer with
  | [] => (none, cursor)
  | first :: rest => (some first, { cursor with buffer := rest })

/-- The next result; none at the end. -/
def next (store : Store) (cursor : Cursor) : Outcome Cursor (Option Json) :=
  if cursor.buffer.isEmpty then
    let fetched := cursor.fetch store
    match fetched.result with
    | .error error => { fetched with result := .error error }
    | .ok () =>
      let (first, state) := fetched.state.pop
      { result := .ok first, lines := fetched.lines, state }
  else
    let (first, state) := cursor.pop
    { result := .ok first, lines := [], state }

/-- The next results, `max` of them or all that are left. An error comes in the place of all of
them: the results taken before it are lost. -/
def gather (store : Store) : Nat → Cursor → Outcome Cursor (List Json)
  | 0, cursor => { result := .ok [], lines := [], state := cursor }
  | max + 1, cursor =>
    let first := cursor.next store
    match first.result with
    | .error error => { first with result := .error error }
    | .ok none => { first with result := .ok [] }
    | .ok (some document) =>
      let more := gather store max first.state
      { result := more.result.map (document :: ·), lines := first.lines ++ more.lines,
        state := more.state }

/-- A batch of up to `max` results. Room is made for all of them first, whatever is left. -/
def nextBatch (memory : Memory) (store : Store) (max : Nat) (cursor : Cursor) :
    Outcome Cursor (List Json) :=
  match memory.reserve max with
  | .error error => { result := .error error, lines := [], state := cursor }
  | .ok () => cursor.gather store max

theorem nextBatch_of_le {memory : Memory} {max : Nat} (h : max ≤ memory.capacity) (store : Store)
    (cursor : Cursor) : cursor.nextBatch memory store max = cursor.gather store max := by
  rw [nextBatch, Memory.reserve_of_le h]

/-- Without room for the batch the call panics and leaves the cursor as it is. -/
theorem nextBatch_of_lt {memory : Memory} {max : Nat} (h : memory.capacity < max) (store : Store)
    (cursor : Cursor) :
    cursor.nextBatch memory store max =
      { result := .error .capacityOverflow, lines := [], state := cursor } := by
  rw [nextBatch, Memory.reserve_of_lt h]

/-- How often `next` can answer with a result or an error, at most. -/
def bound (store : Store) (cursor : Cursor) : Nat :=
  let unread := match cursor.liveSession? store with
    | some session => (session.documents cursor.collection).length - cursor.position
    | none => 0
  cursor.buffer.length + unread + 1

/-- The answers of at most `fuel` calls of `next`, up to the end. -/
def take (store : Store) : Nat → Cursor → Cursor × List (Except Error Json) × List Line
  | 0, cursor => (cursor, [], [])
  | fuel + 1, cursor =>
    let first := cursor.next store
    match first.result with
    | .ok none => (first.state, [], first.lines)
    | .ok (some document) =>
      let (last, answers, lines) := take store fuel first.state
      (last, .ok document :: answers, first.lines ++ lines)
    | .error error =>
      let (last, answers, lines) := take store fuel first.state
      (last, .error error :: answers, first.lines ++ lines)

/-- All answers of `next` up to the end; the last call is the one that finds the end. -/
def drain (store : Store) (cursor : Cursor) : Cursor × List (Except Error Json) × List Line :=
  cursor.take store (cursor.bound store + 1)

/-- Whether every result has been yielded, or the cursor was closed. -/
def isExhausted (cursor : Cursor) : Bool := cursor.session.isNone && cursor.buffer.isEmpty

def closedLine (cursor : Cursor) : Line :=
  Store.line .trace s!"Cursor on '{cursor.collection.text}' closed at position {cursor.position}"

/-- Lets go of the store and of what was fetched. -/
def close (cursor : Cursor) : Outcome Cursor Unit where
  result := .ok ()
  lines := [cursor.closedLine]
  state := { cursor with session := none, buffer := [] }

end Cursor

end DocStore
