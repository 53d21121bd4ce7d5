import DocStore.CommandLine.Run

/-!
# The program

Reads the files that the command line names, runs the command and prints what it says.
-/

namespace DocStore

/-- The system's number of a failure, which arrives with either sign. -/
def failureNumber (code : UInt32) : UInt32 := min code (0 - code)

/-- Opens a file and reads it to its end. A directory opens like a file and refuses the first
read; what stands below a plain file does not open. -/
def openedFile (path : String) : IO Opened := do
  if Text.contains path '\x00' then return .refused .nulInName
  try
    return .source ⟨(← IO.FS.readBinFile path).toList, none⟩
  catch
    | .noFileOrDirectory _ _ _ => return .missing
    | failure@(.inappropriateType _ code _) =>
      return match failureNumber code with
        | 20 => .refused .notDirectory
        | 21 => .source ⟨[], some .isDirectory⟩
        | _ => .refused (.device (toString failure))
    | failure@(.invalidArgument _ code _) =>
      return .refused
        (if failureNumber code = 36 then .nameTooLong else .device (toString failure))
    | failure => return .refused (.device (toString failure))

/-- A label for a session that no other session has: random digits in five groups. -/
def randomLabel : IO String := do
  let group (size : Nat) : IO String := do
    let digits ← (List.range size).mapM fun _ => return Nat.digitChar (← IO.rand 0 15)
    return String.ofList digits
  return "-".intercalate (← [8, 4, 4, 4, 12].mapM group)

def usageText : String :=
  "Usage: joinbase <search|fields> --collection <COLLECTION> [OPTIONS]\n\n"
    ++ "  --load <COLLECTION=PATH>            load a JSON array file, repeatable\n"
    ++ "  --query <FIELD=VALUE[&...]>         constraints of a search\n"
    ++ "  --join <LEFT.FIELD=RIGHT.FIELD>     a join of a search, repeatable\n"
    ++ "  --store <NAME> --engine <NAME> --batch-size <N> --log-level <LEVEL>"

def versionText : String := "joinbase 0.1.0"

/-- Answers arguments that lead to no command. -/
def refuse (usage : CommandLine.Usage) : IO UInt32 := do
  match usage with
  | .version => IO.println versionText
  | .help => IO.println usageText
  | .invalidValue fault =>
    IO.eprintln s!"error: {fault.message}"
    IO.eprintln usageText
  | _ => IO.eprintln usageText
  return UInt32.ofNat usage.exitCode

/-- The files that a command loads. -/
def loadedPaths : CommandLine.Command → List String
  | .search _ _ _ sources => sources.loads.map (·.path)
  | .fields _ sources => sources.loads.map (·.path)

def perform (command : CommandLine.Command) : IO UInt32 := do
  let files ← (loadedPaths command).mapM fun path => return (path, ← openedFile path)
  let openFile (path : String) : Opened := (files.lookup path).getD .missing
  let (console, failure) :=
    CommandLine.execute { openFile, label := ← randomLabel, memory := .standard } command
  console.notes.forM IO.eprintln
  console.results.forM IO.println
  match failure with
  | none => return 0
  | some ⟨_, .capacityOverflow⟩ =>
    IO.eprintln Error.capacityOverflow.message
    return 101
  | some failure =>
    IO.eprintln s!"Error: {failure.doing}\n\nCaused by:\n    {failure.error.message}"
    return 1

end DocStore

def main (arguments : List String) : IO UInt32 :=
  match DocStore.CommandLine.readCommand arguments with
  | .ok command => DocStore.perform command
  | .error usage => DocStore.refuse usage
