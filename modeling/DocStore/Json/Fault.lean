import DocStore.Json.Printer
import DocStore.Text.Quoted

/-!
# What is wrong with a JSON text

The causes for which a text is refused: faults of syntax, and values that do not fit what is to be
read. `Fault.message` words each of them.
-/

namespace DocStore.Json

/-- A value that stands where another kind of value is wanted, as far as the report tells of it. -/
inductive Found where
  | null
  | bool (b : Bool)
  | number (n : Number)
  | text (s : String)
  | sequence
  | map

def Found.phrase : Found → String
  | .null => "null"
  | .bool true => "boolean \x60true\x60"
  | .bool false => "boolean \x60false\x60"
  | .number (.int n) => s!"integer \x60{n.value}\x60"
  | .number (.float x) => s!"floating point \x60{String.ofList x.render}\x60"
  | .text s => s!"string {Text.quoted s}"
  | .sequence => "sequence"
  | .map => "map"

inductive Fault where
  | endInValue
  | endInList
  | endInObject
  | endInText
  | expectedValue
  | expectedIdent
  | expectedListEnd
  | expectedObjectEnd
  | expectedColon
  | keyMustBeText
  | trailingComma
  | trailingCharacters
  | invalidNumber
  | numberOutOfRange
  | controlCharacter
  | invalidEscape
  | endOfHexEscape
  | loneSurrogate
  | invalidCodePoint
  | recursionLimit
  | invalidType (found : Found) (expected : String)
  | invalidValue (found : Found) (expected : String)
  | missingField (name : String)
  | duplicateField (name : String)
  | unknownField (name : String) (known : List String)
  | invalidLength (length : Nat) (expected : String)

namespace Fault

def inTicks (name : String) : String := s!"\x60{name}\x60"

def message : Fault → String
  | .endInValue => "EOF while parsing a value"
  | .endInList => "EOF while parsing a list"
  | .endInObject => "EOF while parsing an object"
  | .endInText => "EOF while parsing a string"
  | .expectedValue => "expected value"
  | .expectedIdent => "expected ident"
  | .expectedListEnd => "expected " ++ inTicks "," ++ " or " ++ inTicks "]"
  | .expectedObjectEnd => "expected " ++ inTicks "," ++ " or " ++ inTicks "\x7d"
  | .expectedColon => "expected " ++ inTicks ":"
  | .keyMustBeText => "key must be a string"
  | .trailingComma => "trailing comma"
  | .trailingCharacters => "trailing characters"
  | .invalidNumber => "invalid number"
  | .numberOutOfRange => "number out of range"
  | .controlCharacter => "control character (\\u0000-\\u001F) found while parsing a string"
  | .invalidEscape => "invalid escape"
  | .endOfHexEscape => "unexpected end of hex escape"
  | .loneSurrogate => "lone leading surrogate in hex escape"
  | .invalidCodePoint => "invalid unicode code point"
  | .recursionLimit => "recursion limit exceeded"
  | .invalidType found expected => s!"invalid type: {found.phrase}, expected {expected}"
  | .invalidValue found expected => s!"invalid value: {found.phrase}, expected {expected}"
  | .missingField name => s!"missing field {inTicks name}"
  | .duplicateField name => s!"duplicate field {inTicks name}"
  | .unknownField name known =>
    s!"unknown field {inTicks name}, expected one of " ++ ", ".intercalate (known.map inTicks)
  | .invalidLength length expected => s!"invalid length {length}, expected {expected}"

end Fault

end DocStore.Json
