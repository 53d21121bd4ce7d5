import DocStore.Binary64.Basic

/-!
# The shortest decimal of a double

Of the decimals that read back as a given double the text has the fewest digits, and of those it is
the nearest to the double. The search is by exact arithmetic on whole numbers: on the grid of `n`
significant digits only the two neighbours of the double can be the answer.
-/

namespace DocStore.Binary64

/-- `10 ^ k` as a quotient. -/
def powerOfTen (k : Int) : Nat × Nat :=
  if 0 ≤ k then (Nat.pow 10 k.toNat, 1) else (1, Nat.pow 10 (-k).toNat)

/-- The greatest `k` with `10 ^ k ≤ num / den`, for quotients in the range of doubles. -/
def floorLog10 (num den : Nat) : Int :=
  if den ≤ num then (Nat.toDigits 10 (num / den)).length - 1
  else -(((List.range 400).find? fun k => den ≤ num * Nat.pow 10 k).getD 400 : Nat)

/-- The positive numbers that round to one double: from `low` to `high` units of `num / den`, with
the double itself at `middle`. The ends belong to it if its mantissa is even. -/
structure Interval where
  low : Nat
  middle : Nat
  high : Nat
  closed : Bool
  num : Nat
  den : Nat

/-- The unit is a quarter of the last place, since below a power of two the gap is half as wide. -/
def interval (a : Binary64) : Interval :=
  let (num, den) := shifted 1 1 (a.exponent - 2)
  let below := if a.mantissa = Nat.pow 2 52 ∧ -1074 < a.exponent then 1 else 2
  { low := 4 * a.mantissa - below, middle := 4 * a.mantissa, high := 4 * a.mantissa + 2,
    closed := a.mantissa % 2 == 0, num, den }

/-- Whether `digits * 10 ^ k` lies in the interval. -/
def Interval.holds (i : Interval) (digits : Nat) (k : Int) : Bool :=
  let (p, q) := powerOfTen k
  let value := digits * p * i.den
  let low := i.low * i.num * q
  let high := i.high * i.num * q
  if i.closed then decide (low ≤ value ∧ value ≤ high) else decide (low < value ∧ value < high)

/-- The point of the grid `10 ^ k` in the interval that is nearest to its middle, on a tie the even
one. -/
def Interval.gridPoint? (i : Interval) (k : Int) : Option Nat :=
  let (p, q) := powerOfTen k
  let num := i.middle * i.num * q
  let den := i.den * p
  let floor := num / den
  match i.holds floor k, i.holds (floor + 1) k with
  | true, true => some (roundQuotient num den)
  | true, false => some floor
  | false, true => some (floor + 1)
  | false, false => none

/-- The digits of the shortest decimal, and the power of ten of the last of them. Seventeen digits
are enough for every double. -/
def shortest (a : Binary64) : Nat × Int :=
  let i := a.interval
  let top := floorLog10 (i.middle * i.num) i.den
  let found := (List.range 17).findSome? fun (n : Nat) =>
    (i.gridPoint? (top - n)).map fun digits => (digits, top - n)
  found.getD (0, 0)

/-- Digits in text: positional if the first digit stands between the fifth place after the point and
the sixteenth before it, with at least one digit after the point; else in powers of ten. -/
def layout (digits : List Char) (exponent : Int) : List Char :=
  let lead : Int := exponent + digits.length - 1
  let kept := (digits.reverse.dropWhile (· == '0')).reverse
  if 0 ≤ lead ∧ lead ≤ 15 then
    let whole := lead.toNat + 1
    let padded := kept ++ List.replicate (whole - kept.length) '0'
    let fraction := padded.drop whole
    padded.take whole ++ '.' :: (if fraction.isEmpty then ['0'] else fraction)
  else if -5 ≤ lead ∧ lead < 0 then
    '0' :: '.' :: (List.replicate ((-lead).toNat - 1) '0' ++ kept)
  else
    let mantissa := match kept with
      | first :: second :: rest => first :: '.' :: second :: rest
      | short => short
    let sign := if lead < 0 then '-' else '+'
    mantissa ++ 'e' :: sign :: Nat.toDigits 10 lead.natAbs

/-- The text of a double. -/
def render (a : Binary64) : List Char :=
  let sign := if a.negative then ['-'] else []
  if a.mantissa = 0 then sign ++ ['0', '.', '0']
  else
    let (digits, exponent) := a.shortest
    sign ++ layout (Nat.toDigits 10 digits) exponent

end DocStore.Binary64
