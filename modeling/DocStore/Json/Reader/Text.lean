import DocStore.Json.Reader.Basic
import DocStore.Text.Utf8

/-!
# Reading strings

A string ends at the next quotation mark. Its bytes, with the escapes put into UTF-8, are checked as
a whole when it ends. Four hexadecimal digits name a UTF-16 unit; two of them make a character
beyond the first plane.
-/

namespace DocStore.Json.Reader

def hexDigit? (c : Char) : Option Nat :=
  if c.isDigit then some (c.toNat - '0'.toNat)
  else if 'a' ≤ c ∧ c ≤ 'f' then some (c.toNat - 'a'.toNat + 10)
  else if 'A' ≤ c ∧ c ≤ 'F' then some (c.toNat - 'A'.toNat + 10)
  else none

/-- The number in the next four hexadecimal digits, of which all are taken before one is judged. -/
def hexUnit : Reader Nat := do
  let digits := [← next .endInText, ← next .endInText, ← next .endInText, ← next .endInText]
  match digits.mapM hexDigit? with
  | some values => return values.foldl (fun n value => 16 * n + value) 0
  | none => fail .invalidEscape

def expect (c : Char) : Reader Unit := do
  if (← next .endInText) ≠ c then fail .endOfHexEscape

/-- The character that an escape with `u` stands for. -/
def hexEscape : Reader Char := do
  let unit ← hexUnit
  if 0xDC00 ≤ unit ∧ unit ≤ 0xDFFF then fail .loneSurrogate
  if unit < 0xD800 ∨ 0xDBFF < unit then return Char.ofNat unit
  expect '\\'
  expect 'u'
  let trail ← hexUnit
  if trail < 0xDC00 ∨ 0xDFFF < trail then fail .loneSurrogate
  return Char.ofNat (0x10000 + (unit - 0xD800) * 0x400 + (trail - 0xDC00))

/-- The character that the letter after a backslash stands for, if it needs no digits. -/
def simpleEscape? : Char → Option Char
  | '"' => some '"'
  | '\\' => some '\\'
  | '/' => some '/'
  | 'b' => some '\x08'
  | 'f' => some '\x0c'
  | 'n' => some '\n'
  | 'r' => some '\r'
  | 't' => some '\t'
  | _ => none

/-- The character that an escape stands for, after the backslash. -/
def escaped : Reader Char := do
  let c ← next .endInText
  match simpleEscape? c with
  | some plain => return plain
  | none => if c = 'u' then hexEscape else fail .invalidEscape

/-- One step through a string; `before` holds the bytes so far, last byte first. -/
def textStep (before : List UInt8) : Reader (List UInt8 ⊕ String) := do
  match ← next .endInText with
  | '"' =>
    match Text.decodeUtf8? before.reverse with
    | some chars => return .inr (String.ofList chars)
    | none => fail .invalidCodePoint
  | '\\' => return .inl ((Text.utf8Char (← escaped)).reverse ++ before)
  | c =>
    if c.toNat < 0x20 then fail .controlCharacter
    else return .inl (UInt8.ofNat c.toNat :: before)

/-- The string of which the opening quotation mark is taken. -/
def textBody : Reader String := loop .endInText textStep []

/-- Takes an escape of a string whose content does not count: units need not make characters. -/
def skipEscape : Reader Unit := do
  let c ← next .endInText
  if c = 'u' then let _ ← hexUnit
  else if (simpleEscape? c).isNone then fail .invalidEscape

def skipTextStep : Unit → Reader (Unit ⊕ Unit) := fun _ => do
  match ← next .endInText with
  | '"' => return .inr ()
  | '\\' => do skipEscape; return .inl ()
  | c => if c.toNat < 0x20 then fail .controlCharacter else return .inl ()

/-- Takes a string whose content does not count, after the opening quotation mark. -/
def skipText : Reader Unit := loop .endInText skipTextStep ()

end DocStore.Json.Reader
