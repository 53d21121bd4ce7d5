import DocStore.Json.Reader.Layout
import DocStore.Log
import DocStore.Outcome
import DocStore.Text.Blank

/-!
# Settings

What a store and its loader are run with. Settings are read from a JSON text, in which each may be
left out, and checked before anything is opened.
-/

namespace DocStore

structure Settings where
  engine : String
  storeName : String
  batchSize : UInt64
  pageSize : UInt64
  logLevel : String
  deriving DecidableEq

namespace Settings

/-- The one engine there is. -/
def memoryEngine : String := "memory"

/-- How many records one insert takes if nothing else is said. -/
def standardBatchSize : UInt64 := 100

/-- How many documents one page holds if nothing else is said. -/
def standardPageSize : UInt64 := 100

def standardStoreName : String := "joinbase"

def standard : Settings where
  engine := memoryEngine
  storeName := standardStoreName
  batchSize := standardBatchSize
  pageSize := standardPageSize
  logLevel := "warn"

def size : Json.Reader UInt64 := do
  return (← Json.Reader.integer 0 0xFFFFFFFFFFFFFFFF "usize").toNat.toUInt64

/-- The written form of settings, with the standard values where one is missing. -/
def layout : Json.Layout Settings where
  title := "struct StoreConfig"
  slots := [
    ⟨"engine", false, fun s => return { s with engine := ← Json.Reader.text }⟩,
    ⟨"store_name", false, fun s => return { s with storeName := ← Json.Reader.text }⟩,
    ⟨"batch_size", false, fun s => return { s with batchSize := ← size }⟩,
    ⟨"page_size", false, fun s => return { s with pageSize := ← size }⟩,
    ⟨"log_level", false, fun s => return { s with logLevel := ← Json.Reader.text }⟩]
  blank := standard
  strict := true

def level (settings : Settings) : Except SettingsFault Level :=
  match Level.ofName? settings.logLevel with
  | some level => .ok level
  | none => .error (.unknownLevel settings.logLevel)

/-- A logger at the level of the settings that prints its lines. -/
def logger (settings : Settings) : Except SettingsFault Logger :=
  settings.level.map fun level => .new level .console

/-- Refuses settings that a store cannot run with. -/
def validate (settings : Settings) : Except SettingsFault Unit :=
  if settings.engine ≠ memoryEngine then .error (.unknownEngine settings.engine)
  else if Text.allBlank settings.storeName then .error .blankStoreName
  else if settings.batchSize = 0 then .error .zeroBatchSize
  else if settings.pageSize = 0 then .error .zeroPageSize
  else settings.level.map fun _ => ()

/-- Reads settings and validates them. -/
def ofText (text : String) : Except SettingsFault Settings :=
  match Json.ofText layout.reader text with
  | .error fault => .error (.unreadable fault)
  | .ok settings => settings.validate.map fun _ => settings

/-- The fields of settings in order, with their written values. -/
def written (settings : Settings) : List (String × List Char) := [
  ("engine", Json.renderText settings.engine),
  ("store_name", Json.renderText settings.storeName),
  ("batch_size", Nat.toDigits 10 settings.batchSize.toNat),
  ("page_size", Nat.toDigits 10 settings.pageSize.toNat),
  ("log_level", Json.renderText settings.logLevel)]

/-- The text of settings, with all fields. -/
def render (settings : Settings) : String :=
  let fields := settings.written.map fun (name, value) => Json.renderText name ++ ':' :: value
  String.ofList ('\x7b' :: [','].intercalate fields ++ ['\x7d'])

end Settings

end DocStore
