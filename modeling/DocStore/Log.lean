/-!
# Log lines

Operations answer with all the lines that they have to say, whatever their level. A logger keeps
those that its level lets through, and either holds them or prints them.
-/

namespace DocStore

/-- Levels from the most severe to the most talkative. -/
inductive Level where
  | error
  | warn
  | info
  | debug
  | trace
  deriving DecidableEq

namespace Level

def rank : Level → Nat
  | .error => 0
  | .warn => 1
  | .info => 2
  | .debug => 3
  | .trace => 4

def name : Level → String
  | .error => "ERROR"
  | .warn => "WARN"
  | .info => "INFO"
  | .debug => "DEBUG"
  | .trace => "TRACE"

def icon : Level → String
  | .error => "❌"
  | .warn => "\u26A0\uFE0F"
  | .info => "\u2139\uFE0F"
  | .debug => "🔍"
  | .trace => "📝"

def all : List Level := [.error, .warn, .info, .debug, .trace]

/-- A letter as a capital. Beyond ASCII only the dotless i has a capital that is in a level's
name. -/
def capital (c : Char) : Char := if c = 'ı' then 'I' else c.toUpper

/-- The level of that name, in capital or small letters. -/
def ofName? (text : String) : Option Level :=
  all.find? fun level => level.name.toList = text.toList.map capital

/-- Whether a logger at level `limit` takes a line at this level. -/
def within (level limit : Level) : Bool := level.rank ≤ limit.rank

end Level

/-- The part of the program that a line comes from. -/
inductive Component where
  | loader
  | repository
  | compiler
  | store
  | named (label : String)
  deriving DecidableEq

def Component.label : Component → String
  | .loader => "joinbase_core::loader"
  | .repository => "joinbase_core::repository"
  | .compiler => "joinbase_core::query::compiler"
  | .store => "joinbase_core::storage::memory_storage"
  | .named label => label

structure Line where
  level : Level
  component : Component
  message : String

/-- A line as it is printed. -/
def Line.render (line : Line) : String :=
  s!"{line.level.icon} [{line.level.name}] {line.component.label}: {line.message}"

/-- The lines that a logger at level `limit` takes. -/
def admitted (limit : Level) (lines : List Line) : List Line :=
  lines.filter (·.level.within limit)

/-- Where a logger puts its lines. -/
inductive Sink where
  | memory
  | console
  deriving DecidableEq

structure Logger where
  level : Level
  sink : Sink
  /-- All lines taken so far. -/
  taken : List Line

namespace Logger

def new (level : Level) (sink : Sink) : Logger := ⟨level, sink, []⟩

def setLevel (level : Level) (logger : Logger) : Logger := { logger with level }

def log (line : Line) (logger : Logger) : Logger :=
  if line.level.within logger.level then { logger with taken := logger.taken ++ [line] }
  else logger

def logAll (lines : List Line) (logger : Logger) : Logger :=
  lines.foldl (fun logger line => logger.log line) logger

/-- The lines that are held in memory. -/
def held (logger : Logger) : List Line :=
  if logger.sink = .memory then logger.taken else []

/-- The lines that are printed. -/
def printed (logger : Logger) : List Line :=
  if logger.sink = .console then logger.taken else []

/-- The messages held at exactly this level. -/
def messages (level : Level) (logger : Logger) : List String :=
  (logger.held.filter (·.level = level)).map (·.message)

end Logger

end DocStore
