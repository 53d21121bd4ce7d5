/-!
# Sources of bytes

A source is a run of bytes that ends, or that breaks off with a read failure after its last byte.
-/

namespace DocStore

/-- Why a source cannot be opened, or not be read to its end. -/
inductive ReadFault where
  | isDirectory
  | notDirectory
  | nulInName
  | nameTooLong
  | device (report : String)

def ReadFault.message : ReadFault → String
  | .isDirectory => "Is a directory (os error 21)"
  | .notDirectory => "Not a directory (os error 20)"
  | .nameTooLong => "File name too long (os error 36)"
  | .nulInName => "file name contained an unexpected NUL byte"
  | .device report => report

structure Source where
  bytes : List UInt8
  /-- The failure that follows the last byte; none if the source ends there. -/
  broken : Option ReadFault

/-- What comes of opening a file. -/
inductive Opened where
  | missing
  | refused (fault : ReadFault)
  | source (source : Source)

end DocStore
