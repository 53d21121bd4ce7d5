import DocStore.Outcome
import DocStore.Settings

/-!
# The store in memory

A store that is started has a session, which holds its collections. Stopping it drops the session
with all documents; each start opens a new one, numbered so that an old one is never taken for it.
-/

namespace DocStore

structure Collection where
  /-- The documents in the order in which they came. -/
  documents : List Json
  /-- The identifiers of the documents, in the same order. -/
  ids : List DocumentId
  /-- The greatest number among the identifiers, or zero. -/
  lastId : UInt64

def Collection.empty : Collection := ⟨[], [], 0⟩

structure Session where
  name : String
  /-- What log lines call the session. -/
  label : String
  number : Nat
  /-- The collections under their names, in the order of the names. -/
  collections : List (String × Collection)

namespace Session

def collection? (session : Session) (name : CollectionName) : Option Collection :=
  Fields.get? name.text session.collections

/-- The documents of a collection; none if there is no such collection. -/
def documents (session : Session) (name : CollectionName) : List Json :=
  match session.collection? name with
  | some collection => collection.documents
  | none => []

end Session

structure Store where
  session : Option Session
  /-- How many sessions have been opened. -/
  opened : Nat
  /-- How many documents a cursor fetches at a time. -/
  pageSize : Nat
  pageSize_pos : 0 < pageSize

namespace Store

/-- A store that is not started, with pages of the standard size. -/
def new : Store := ⟨none, 0, Settings.standardPageSize.toNat, by decide⟩

/-- A store with the page size of the settings, the only one of them that it uses. -/
def ofSettings (settings : Settings) : Except SettingsFault Store :=
  if h : 0 < settings.pageSize.toNat then .ok ⟨none, 0, settings.pageSize.toNat, h⟩
  else .error .zeroPageSize

def isStarted (store : Store) : Bool := store.session.isSome

def name? (store : Store) : Option String := store.session.map (·.name)

/-- The names of all collections, in order. -/
def collectionNames (store : Store) : List CollectionName :=
  match store.session with
  | some session => session.collections.map fun entry => ⟨entry.1⟩
  | none => []

def count (store : Store) (name : CollectionName) : Nat :=
  match store.session with
  | some session => (session.documents name).length
  | none => 0

def line (level : Level) (message : String) : Line := ⟨level, .store, message⟩

/-- Opens a session, unless one is open or the name is blank. -/
def start (name label : String) (store : Store) : Outcome Store Unit :=
  let refuse (fault : SettingsFault) : Outcome Store Unit :=
    { result := .error (.settings fault), lines := [], state := store }
  match store.session with
  | some session => refuse (.alreadyStarted session.name)
  | none =>
    if Text.allBlank name then refuse .blankStoreName
    else
      let number := store.opened + 1
      { result := .ok ()
        lines := [line .info s!"Store '{name}' started (session {label})"]
        state := { store with
          session := some { name, label, number, collections := [] }, opened := number } }

/-- The line that tells that a session ends. -/
def stopLine (session : Session) : Line :=
  line .info s!"Store '{session.name}' stopped (session {session.label})"

/-- Drops the session, if there is one. -/
def stop (store : Store) : Outcome Store Unit where
  result := .ok ()
  lines := store.session.toList.map stopLine
  state := { store with session := none }

end Store

end DocStore
