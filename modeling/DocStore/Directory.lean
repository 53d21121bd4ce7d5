import DocStore.Source
import DocStore.Text.Split

/-!
# A tree of files as a value

Files and directories under one working directory. A path leads from the working directory down its
segments, each of which must be a directory up to the last one. A directory can be opened, but not
read. Outside of the working directory there are directories without entries. Names have a greatest
length, and so have paths.
-/

namespace DocStore

/-- Files by their relative paths, and directories; a file's parents need not be listed. -/
structure Directory where
  files : List (String × List UInt8)
  directories : List String

namespace Directory

inductive Place where
  | file (bytes : List UInt8)
  /-- The directory with this path from the working directory. -/
  | inside (path : List String)
  | outside

def segments (path : String) : List String := Text.split '/' path |>.filter (· ≠ "")

/-- Whether a directory has this path: it is listed, or something else stands in it. -/
def hasDirectory (tree : Directory) (path : List String) : Bool :=
  let parents := tree.files.map fun file => (segments file.1).dropLast
  (tree.directories.map segments ++ parents).any path.isPrefixOf

/-- What stands under a name in a directory. -/
def entry? (tree : Directory) (parent : List String) (name : String) : Option Place :=
  let path := parent ++ [name]
  match tree.files.find? fun file => segments file.1 = path with
  | some (_, bytes) => some (.file bytes)
  | none => if tree.hasDirectory path then some (.inside path) else none

/-- How many bytes a name may have. -/
def longestName : Nat := 255

/-- How many bytes a path may have. -/
def longestPath : Nat := 4095

/-- The place to which segments lead. It is an error if one of them leads on from a file, and in a
directory if it is too long to be looked up. -/
def walk (tree : Directory) : Place → List String → Except Opened Place
  | place, [] => .ok place
  | .file _, _ :: _ => .error (.refused .notDirectory)
  | place, "" :: rest => walk tree place rest
  | place, "." :: rest => walk tree place rest
  | .outside, ".." :: rest => walk tree .outside rest
  | .outside, name :: _ =>
    .error (if longestName < name.utf8ByteSize then .refused .nameTooLong else .missing)
  | .inside path, ".." :: rest =>
    walk tree (if path.isEmpty then .outside else .inside path.dropLast) rest
  | .inside path, name :: rest =>
    if longestName < name.utf8ByteSize then .error (.refused .nameTooLong)
    else
      match tree.entry? path name with
      | some place => walk tree place rest
      | none => .error .missing

def openFile (tree : Directory) (path : String) : Opened :=
  if Text.contains path '\x00' then .refused .nulInName
  else if path = "" then .missing
  else if longestPath < path.utf8ByteSize then .refused .nameTooLong
  else
    let root : Place := if Text.startsWith path '/' then .outside else .inside []
    match tree.walk root (Text.split '/' path) with
    | .error opened => opened
    | .ok (.file bytes) => .source ⟨bytes, none⟩
    | .ok _ => .source ⟨[], some .isDirectory⟩

end Directory

end DocStore
