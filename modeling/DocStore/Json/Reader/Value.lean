import DocStore.Json.Reader.Number
import DocStore.Json.Reader.Text

/-!
# Reading values

Whole values, to a limited depth: at most 127 arrays and objects stand within each other. A reader
for one kind of value reports what else it finds by reading as much of it as the report names.
-/

namespace DocStore.Json

namespace Reader

variable {α β : Type}

/-- How many arrays and objects may stand within each other. -/
def depthLimit : Nat := 127

/-- All items of a list of which the opening bracket is taken. -/
def items (item : Reader α) : Reader (List α) :=
  loop .endInList (fun (before : List α) => do
    if ← nextItem before.isEmpty then return .inl ((← item) :: before)
    skip
    return .inr before.reverse) []

/-- All fields of an object of which the opening brace is taken; of two with one name the later
counts. -/
def fields (value : Reader Json) : Reader (List (String × Json)) :=
  loop .endInObject (fun ((first, before) : Bool × List (String × Json)) => do
    if ← nextKey first then
      let name ← textBody
      colon
      return .inl (false, Fields.insert name (← value) before)
    return .inr before) (true, [])

/-- A reader for what stands within one more array or object, if that may still be opened. -/
def within (inner : Option (Reader α)) (read : Reader α → Reader β) : Reader β :=
  match inner with
  | none => fail .recursionLimit
  | some inner => do skip; read inner

/-- A value whose arrays and objects hold what `inner` reads. -/
def valueWith (inner : Option (Reader Json)) : Reader Json := do
  match ← token with
  | none => fail .endInValue
  | some 'n' => do skip; letters ['u', 'l', 'l']; return .null
  | some 't' => do skip; letters ['r', 'u', 'e']; return .bool true
  | some 'f' => do skip; letters ['a', 'l', 's', 'e']; return .bool false
  | some '-' => do skip; return .num (← number true)
  | some '"' => do skip; return .str (← textBody)
  | some '[' => within inner fun value => return .arr (← items value)
  | some '\x7b' => within inner fun value => return .obj (← fields value)
  | some c => if c.isDigit then return .num (← number false) else fail .expectedValue

/-- A value in which at most `depth` arrays and objects stand within each other. -/
def value : Nat → Reader Json
  | 0 => valueWith none
  | depth + 1 => valueWith (some (value depth))

/-- What stands where something else is wanted. -/
def found : Reader Found := do
  match ← token with
  | some '[' => return .sequence
  | some '\x7b' => return .map
  | _ =>
    match ← valueWith none with
    | .null => return .null
    | .bool b => return .bool b
    | .num n => return .number n
    | .str s => return .text s
    | .arr _ => return .sequence
    | .obj _ => return .map

def mismatch (expected : String) : Reader α := do fail (.invalidType (← found) expected)

/-- The object that stands next, with at most `depth` more arrays and objects within each other. -/
def object (depth : Nat) : Reader Json := do
  match ← token with
  | some '\x7b' =>
    within (match depth with
      | 0 => none
      | depth + 1 => some (value depth)) fun value => return .obj (← fields value)
  | _ => mismatch "a map"

def text : Reader String := do
  match ← token with
  | some '"' => do skip; textBody
  | _ => mismatch "a string"

/-- A list whose items are read by `item`. -/
def listOf (item : Reader α) : Reader (List α) := do
  match ← token with
  | some '[' => do skip; items item
  | _ => mismatch "a sequence"

/-- A whole number from `least` to `most`, which the report calls `name`. -/
def integer (least most : Int) (name : String) : Reader Int := do
  let number ← match ← token with
    | some '-' => do skip; number true
    | some c => if c.isDigit then number false else mismatch name
    | none => fail .endInValue
  match number with
  | .float _ => fail (.invalidType (.number number) name)
  | .int n =>
    if least ≤ n.value ∧ n.value ≤ most then return n.value
    else fail (.invalidValue (.number number) name)

/-- Null, or what `inner` reads. -/
def nullOr (inner : Reader α) : Reader (Option α) := do
  match ← token with
  | some 'n' => do skip; letters ['u', 'l', 'l']; return none
  | _ => return some (← inner)

/-- A value and nothing after it. -/
def only (inner : Reader α) : Reader α := do
  let result ← inner
  atEnd
  return result

end Reader

/-- Reads a text that holds nothing but what `reader` reads. -/
def ofText {α : Type} (reader : Reader α) (text : String) : Except Fault α :=
  match (Reader.only reader).run none (Text.utf8 text) with
  | .ok (result, _) => .ok result
  | .error (.fault f) => .error f
  | .error (.broken _) => .error .endInValue

/-- The value that a text holds. -/
def parse (text : String) : Except Fault Json := ofText (Reader.value Reader.depthLimit) text

end DocStore.Json
