import DocStore.Binary64.Scaled
import DocStore.Json.Reader.Basic

/-!
# Reading numbers

A number is a sign, digits, and perhaps a fraction and a power of ten. Without the last two it stays
whole if it fits 64 bits; minus zero and all other numbers become doubles.
-/

namespace DocStore.Json

/-- A number as it is read, `± significand * 10 ^ exponent`. -/
structure Numeral where
  negative : Bool
  /-- The first digits of the number, of which it takes in no more than fit 64 bits. -/
  significand : Nat
  exponent : Int
  /-- Whether the number has no fraction and no power of ten, and all its digits are taken in. -/
  whole : Bool

/-- Takes digits into a significand as long as it fits 64 bits. Then no digit is taken in any more,
and the rest is left. -/
def takeIn (significand : Nat) : List Char → Nat × List Char
  | [] => (significand, [])
  | digit :: rest =>
    let next := 10 * significand + (digit.toNat - '0'.toNat)
    if next < 0x10000000000000000 then takeIn next rest else (significand, digit :: rest)

/-- A number from its parts. Digits that are left over count as zeros before the point and not at
all after it; after the point the significand takes in digits anew. -/
def Numeral.ofParts (negative : Bool) (digits : List Char) (fraction : Option (List Char))
    (power : Option Int) : Numeral :=
  let places := fraction.getD []
  let (start, left) := takeIn 0 digits
  let (significand, dropped) := takeIn start places
  { negative
    significand
    exponent := power.getD 0 + left.length - (places.length - dropped.length : Nat)
    whole := fraction.isNone && power.isNone && left.isEmpty }

/-- The number in 64 bits, if it is whole. Minus zero is not, and a negative one has a sign. -/
def Numeral.integer? (n : Numeral) : Option Integer :=
  if !n.whole then none
  else if n.negative then
    (if n.significand = 0 then none else Integer.ofInt? (-n.significand))
  else Integer.ofInt? n.significand

def Numeral.number? (n : Numeral) : Option Number :=
  match n.integer? with
  | some integer => some (.int integer)
  | none => (Binary64.scaled? n.negative n.significand n.exponent).map .float

namespace Reader

/-- The digits before the point: a leading zero stands alone. -/
def wholeDigits (atEnd : Fault) : Reader (List Char) := do
  match ← peek with
  | none => fail atEnd
  | some '0' =>
    skip
    match ← peek with
    | some c => if c.isDigit then fail .invalidNumber else return ['0']
    | none => return ['0']
  | some c => if c.isDigit then digitRun else fail .invalidNumber

/-- The digits after a point or in an exponent: one at least. -/
def moreDigits (atEnd : Fault) : Reader (List Char) := do
  let digits ← digitRun
  if !digits.isEmpty then return digits
  match ← peek with
  | none => fail atEnd
  | some _ => fail .invalidNumber

def fraction (atEnd : Fault) : Reader (Option (List Char)) := do
  if (← peek) ≠ some '.' then return none
  skip
  return some (← moreDigits atEnd)

def digitsValue (digits : List Char) : Nat :=
  digits.foldl (fun n digit => 10 * n + (digit.toNat - '0'.toNat)) 0

/-- The power of ten at the end of a number, which must fit 31 bits if it is `bounded` and not
negative. One that does not is refused before a look at what follows it. -/
def exponent (bounded : Bool) (atEnd : Fault) : Reader (Option Int) := do
  let mark ← peek
  if mark ≠ some 'e' ∧ mark ≠ some 'E' then return none
  skip
  let sign ← peek
  if sign = some '+' ∨ sign = some '-' then skip
  let size := digitsValue (← moreDigits atEnd)
  if bounded ∧ sign ≠ some '-' ∧ 0x7FFFFFFF < size then fail .numberOutOfRange
  let _ ← peek
  return some (if sign = some '-' then -size else size)

/-- A number from its first digit on. -/
def numeral (negative : Bool) : Reader Numeral := do
  let digits ← wholeDigits .endInValue
  let fraction ← fraction .endInValue
  let isZero := (digits ++ fraction.getD []).all (· == '0')
  let power ← exponent (!isZero) .endInValue
  return .ofParts negative digits fraction power

def number (negative : Bool) : Reader Number := do
  match (← numeral negative).number? with
  | some number => return number
  | none => fail .numberOutOfRange

/-- Takes a number whose value does not count: it may be of any size, and an end of the source where
digits should stand is reported like any other byte there. -/
def skipNumber : Reader Unit := do
  let _ ← wholeDigits .invalidNumber
  let _ ← fraction .invalidNumber
  let _ ← exponent false .invalidNumber

end Reader

end DocStore.Json
