import DocStore.Json.Fault
import DocStore.Source

/-!
# Reading JSON byte by byte

A reader takes bytes from the front of a source. It fails at the first byte that does not fit, and
a source that breaks off fails every attempt to look beyond its last byte. Here are the readers for
what stands between values: blanks, brackets, commas and colons.
-/

namespace DocStore.Json

inductive Failure where
  | fault (f : Fault)
  | broken (f : ReadFault)

/-- Takes bytes from the front of a source that may break off after its last byte. What is left is
an end of what was there, so that no reader puts a byte back. -/
structure Reader (α : Type) where
  run : Option ReadFault → List UInt8 → Except Failure (α × List UInt8)
  suffix_of_run : ∀ {broken : Option ReadFault} {bytes rest : List UInt8} {result : α},
    run broken bytes = .ok (result, rest) → rest <:+ bytes

namespace Reader

variable {σ α β : Type}

/-- Takes nothing. -/
protected def pure (result : α) : Reader α where
  run _ bytes := .ok (result, bytes)
  suffix_of_run h := by
    cases h
    exact List.suffix_rfl

/-- Reads on with what the first reader leaves. -/
protected def bind (first : Reader α) (next : α → Reader β) : Reader β where
  run broken bytes :=
    match first.run broken bytes with
    | .error failure => .error failure
    | .ok (result, rest) => (next result).run broken rest
  suffix_of_run {broken bytes _ _} h := by
    cases hfirst : first.run broken bytes with
    | error failure => simp [hfirst] at h
    | ok taken =>
      obtain ⟨result, rest⟩ := taken
      simp only [hfirst] at h
      exact ((next result).suffix_of_run h).trans (first.suffix_of_run hfirst)

instance : Monad Reader where
  pure := Reader.pure
  bind := Reader.bind

@[simp] theorem run_pure (result : α) (broken : Option ReadFault) (bytes : List UInt8) :
    (pure result : Reader α).run broken bytes = .ok (result, bytes) := rfl

theorem run_bind (first : Reader α) (next : α → Reader β) (broken : Option ReadFault)
    (bytes : List UInt8) :
    (first >>= next).run broken bytes =
      match first.run broken bytes with
      | .error failure => .error failure
      | .ok (result, rest) => (next result).run broken rest := rfl

/-- Fails without a look at the source. -/
def failWith (failure : Failure) : Reader α where
  run _ _ := .error failure
  suffix_of_run h := by cases h

def fail (f : Fault) : Reader α := failWith (.fault f)

/-- Where `reader` fails, goes on as if it had taken nothing and answered with `default`. -/
def orElse (reader : Reader α) (default : α) : Reader α where
  run broken bytes :=
    match reader.run broken bytes with
    | .error _ => .ok (default, bytes)
    | taken => taken
  suffix_of_run {broken bytes _ _} h := by
    cases hr : reader.run broken bytes with
    | error failure =>
      simp only [hr] at h
      cases h
      exact List.suffix_rfl
    | ok taken =>
      rw [hr] at h
      exact reader.suffix_of_run (hr.trans h)

/-- The next byte, which stays where it is, as the character of that number. -/
def peek : Reader (Option Char) where
  run
    | _, b :: rest => .ok (some (Char.ofNat b.toNat), b :: rest)
    | some broken, [] => .error (.broken broken)
    | none, [] => .ok (none, [])
  suffix_of_run {broken bytes _ _} h := by
    cases bytes with
    | cons b rest => cases h; exact List.suffix_rfl
    | nil =>
      cases broken with
      | some broken => cases h
      | none => cases h; exact List.suffix_rfl

/-- Takes all that `drop` drops from the bytes. -/
def dropping (drop : List UInt8 → List UInt8) (suffix : ∀ bytes, drop bytes <:+ bytes) :
    Reader Unit where
  run _ bytes := .ok ((), drop bytes)
  suffix_of_run {_ bytes _ _} h := by
    cases h
    exact suffix bytes

def skip : Reader Unit := dropping List.tail List.tail_suffix

/-- Takes the next byte; at the end of the source fails with `atEnd`. -/
def next (atEnd : Fault) : Reader Char := do
  match ← peek with
  | some c => skip; return c
  | none => fail atEnd

def isBlank (b : UInt8) : Bool := b == 0x20 || b == 0x09 || b == 0x0A || b == 0x0D

def skipBlanks : Reader Unit := dropping (·.dropWhile isBlank) fun _ => List.dropWhile_suffix _

/-- The next byte that is no blank, which stays where it is. -/
def token : Reader (Option Char) := do
  skipBlanks
  peek

def isDigit (b : UInt8) : Bool := 0x30 ≤ b && b ≤ 0x39

/-- Takes the digits that come next, without a look at what follows them. -/
def digitRun : Reader (List Char) where
  run _ bytes :=
    .ok ((bytes.takeWhile isDigit).map fun b => Char.ofNat b.toNat, bytes.dropWhile isDigit)
  suffix_of_run h := by
    cases h
    exact List.dropWhile_suffix _

/-- Takes the letters of a word that has begun. -/
def letters : List Char → Reader Unit
  | [] => return
  | letter :: more => do
    if (← next .endInValue) = letter then letters more else fail .expectedIdent

/-- Repeats `step` until it answers with a result; each step but the last takes a byte, so that the
number of bytes bounds the steps. -/
def repeated (atEnd : Fault) (step : σ → Reader (σ ⊕ α)) : Nat → σ → Reader α
  | 0, _ => fail atEnd
  | fuel + 1, state => do
    match ← step state with
    | .inl state => repeated atEnd step fuel state
    | .inr result => return result

/-- How many bytes are left. -/
def left : Reader Nat where
  run _ bytes := .ok (bytes.length, bytes)
  suffix_of_run h := by
    cases h
    exact List.suffix_rfl

def loop (atEnd : Fault) (step : σ → Reader (σ ⊕ α)) (state : σ) : Reader α := do
  repeated atEnd step ((← left) + 1) state

/-- Whether another item of a list follows. The end of the list stays where it is. -/
def nextItem (first : Bool) : Reader Bool := do
  match ← token with
  | none => fail .endInList
  | some ']' => return false
  | some c =>
    if first then return true
    else if c ≠ ',' then fail .expectedListEnd
    else
      skip
      match ← token with
      | none => fail .endInValue
      | some ']' => fail .trailingComma
      | some _ => return true

/-- Takes the end of a list of which nothing more is wanted. -/
def closeList : Reader Unit := do
  match ← token with
  | none => fail .endInList
  | some ']' => skip
  | some ',' =>
    skip
    let following ← token.orElse none
    fail (if following = some ']' then .trailingComma else .trailingCharacters)
  | some _ => fail .trailingCharacters

/-- Whether another key of an object follows, with its opening quote already taken. -/
def nextKey (first : Bool) : Reader Bool := do
  let atKey : Option Char → Reader Bool
    | some '"' => do skip; return true
    | some '\x7d' => fail .trailingComma
    | some _ => fail .keyMustBeText
    | none => fail .endInValue
  match ← token with
  | none => fail .endInObject
  | some '\x7d' => skip; return false
  | some c =>
    if first then atKey (some c)
    else if c = ',' then do skip; atKey (← token)
    else fail .expectedObjectEnd

/-- Takes the colon after a key. -/
def colon : Reader Unit := do
  match ← token with
  | none => fail .endInObject
  | some ':' => skip
  | some _ => fail .expectedColon

/-- Only blanks may follow. -/
def atEnd : Reader Unit := do
  match ← token with
  | none => return
  | some _ => fail .trailingCharacters

end Reader

end DocStore.Json
