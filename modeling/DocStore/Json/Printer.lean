import DocStore.Binary64.Shortest
import DocStore.Json.Basic

/-!
# The text of JSON values

No blanks. Strings escape the quotation mark, the backslash and the control characters below the
space, all else stands as it is.
-/

namespace DocStore

def Integer.render (n : Integer) : List Char :=
  (if n.value < 0 then ['-'] else []) ++ Nat.toDigits 10 n.value.natAbs

def Number.render : Number → List Char
  | .int n => n.render
  | .float x => x.render

namespace Json

def escape (c : Char) : List Char :=
  match c with
  | '"' => ['\\', '"']
  | '\\' => ['\\', '\\']
  | '\x08' => ['\\', 'b']
  | '\x0c' => ['\\', 'f']
  | '\n' => ['\\', 'n']
  | '\r' => ['\\', 'r']
  | '\t' => ['\\', 't']
  | c =>
    if c.toNat < 0x20 then
      ['\\', 'u', '0', '0', Nat.digitChar (c.toNat / 16), Nat.digitChar (c.toNat % 16)]
    else [c]

def renderText (text : String) : List Char := '"' :: text.toList.flatMap escape ++ ['"']

mutual

def renderChars : Json → List Char
  | .null => "null".toList
  | .bool true => "true".toList
  | .bool false => "false".toList
  | .num n => n.render
  | .str s => renderText s
  | .arr [] => ['[', ']']
  | .arr (item :: more) => '[' :: (renderChars item ++ renderItems more)
  | .obj [] => ['\x7b', '\x7d']
  | .obj ((name, value) :: more) =>
    '\x7b' :: (renderText name ++ ':' :: (renderChars value ++ renderFields more))

/-- The items after the first one, and the end of the array. -/
def renderItems : List Json → List Char
  | [] => [']']
  | item :: more => ',' :: (renderChars item ++ renderItems more)

/-- The fields after the first one, and the end of the object. -/
def renderFields : List (String × Json) → List Char
  | [] => ['\x7d']
  | (name, value) :: more =>
    ',' :: (renderText name ++ ':' :: (renderChars value ++ renderFields more))

end

def render (value : Json) : String := String.ofList value.renderChars

end Json

end DocStore
