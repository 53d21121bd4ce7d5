import DocStore.Binary64.Basic

/-!
# Decimals by scaling

A decimal becomes a double in rounded steps: the double nearest to its digits as a whole number is
multiplied or divided by the double nearest to a power of ten. Where both of these are exact the
result is the double nearest to the decimal, else it can lie in a place beside it.
-/

namespace DocStore.Binary64

/-- The magnitude as a quotient. -/
def ratio (a : Binary64) : Nat × Nat := shifted a.mantissa 1 a.exponent

/-- The double nearest to `a * b`, if that is finite. -/
def times? (a b : Binary64) : Option Binary64 :=
  let (num, den) := a.ratio
  let (p, q) := b.ratio
  ofRatio? (a.negative != b.negative) (num * p) (den * q)

/-- The double nearest to `a / b`, if that is finite and `b` is not zero. -/
def over? (a b : Binary64) : Option Binary64 :=
  let (num, den) := a.ratio
  let (p, q) := b.ratio
  if p = 0 then none else ofRatio? (a.negative != b.negative) (num * q) (den * p)

/-- The greatest power of ten that a double comes near to. -/
def topPower : Nat := 308

/-- The double nearest to `10 ^ k`, where `k` is at most the top power. -/
def tenTo (k : Nat) : Binary64 := ofInt (Nat.pow 10 k)

/-- A double divided by `10 ^ places`, by the top power first where one division is not enough. A
start below `2 ^ 64` is zero after two divisions by the top power. -/
def shrunk? (start : Binary64) (places : Nat) : Option Binary64 :=
  if places ≤ topPower then start.over? (tenTo places)
  else if places ≤ 2 * topPower then
    (start.over? (tenTo topPower)).bind (·.over? (tenTo (places - topPower)))
  else some (zero false)

/-- `± significand * 10 ^ exponent` for a significand of 64 bits, if it is finite. -/
def scaled? (negative : Bool) (significand : Nat) (exponent : Int) : Option Binary64 :=
  let start := ofInt significand
  let magnitude :=
    if significand = 0 then some start
    else if exponent < 0 then start.shrunk? exponent.natAbs
    else if exponent ≤ topPower then start.times? (tenTo exponent.toNat)
    else none
  magnitude.map fun a => { a with negative }

end DocStore.Binary64
