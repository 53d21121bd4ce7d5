import DocStore.Json.Reader.Number
import DocStore.Json.Reader.Text

/-!
# Passing over values

The value of a field that is not wanted is only followed to its end: depth, characters and the size
of numbers do not count. What is still open is kept innermost first.
-/

namespace DocStore.Json

inductive Bracket where
  | list
  | object

namespace Bracket

def closing : Bracket → Char
  | .list => ']'
  | .object => '\x7d'

def endFault : Bracket → Fault
  | .list => .endInList
  | .object => .endInObject

def expectedEnd : Bracket → Fault
  | .list => .expectedListEnd
  | .object => .expectedObjectEnd

end Bracket

namespace Reader

/-- Takes what precedes a value inside a bracket: the key and the colon of a field. -/
def skipKey : Bracket → Reader Unit
  | .list => return
  | .object => do
    match ← token with
    | none => fail .endInObject
    | some '"' => do skip; skipText; colon
    | some _ => fail .keyMustBeText

/-- Takes closing brackets up to the next value, or to the end of the outermost bracket. -/
def climb : Bool → List Bracket → Reader (List Bracket ⊕ Unit)
  | _, [] => return .inr ()
  | afterValue, bracket :: outer => do
    match ← token with
    | none => fail bracket.endFault
    | some c =>
      if c = ',' ∧ afterValue then
        skip
        skipKey bracket
        return .inl (bracket :: outer)
      else if c = bracket.closing then
        skip
        climb true outer
      else if afterValue then fail bracket.expectedEnd
      else
        skipKey bracket
        return .inl (bracket :: outer)

/-- Takes one value inside the open brackets, up to the next one. -/
def skipStep (outer : List Bracket) : Reader (List Bracket ⊕ Unit) := do
  match ← token with
  | none => fail .endInValue
  | some '[' => do skip; climb false (.list :: outer)
  | some '\x7b' => do skip; climb false (.object :: outer)
  | some c =>
    match c with
    | 'n' => do skip; letters ['u', 'l', 'l']
    | 't' => do skip; letters ['r', 'u', 'e']
    | 'f' => do skip; letters ['a', 'l', 's', 'e']
    | '-' => do skip; skipNumber
    | '"' => do skip; skipText
    | c => if c.isDigit then skipNumber else fail .expectedValue
    climb true outer

def skipValue : Reader Unit := loop .endInValue skipStep []

end Reader

end DocStore.Json
