/-!
# Finite doubles

A finite double as a sign, a mantissa and a power of two, in the one form that `Canonical` allows.
Quotients are rounded exactly, to the nearest double and on a tie to the even mantissa; numbers
that round beyond the largest double have no value here.
-/

namespace DocStore

/-- The mantissas and exponents of finite doubles: each magnitude has one such pair. -/
def Binary64.Canonical (mantissa : Nat) (exponent : Int) : Prop :=
  mantissa < Nat.pow 2 53 ∧
    (exponent = -1074 ∨ (Nat.pow 2 52 ≤ mantissa ∧ -1074 < exponent ∧ exponent ≤ 971))

instance (mantissa : Nat) (exponent : Int) : Decidable (Binary64.Canonical mantissa exponent) :=
  inferInstanceAs (Decidable (_ ∧ _))

/-- The double `± mantissa * 2 ^ exponent`. -/
structure Binary64 where
  negative : Bool
  mantissa : Nat
  exponent : Int
  canonical : Binary64.Canonical mantissa exponent
  deriving DecidableEq

namespace Binary64

def zero (negative : Bool) : Binary64 := ⟨negative, 0, -1074, by decide⟩

def largest (negative : Bool) : Binary64 := ⟨negative, Nat.pow 2 53 - 1, 971, by decide⟩

/-- `num / den` as a whole number, to the nearest and on a tie to the even one. -/
def roundQuotient (num den : Nat) : Nat :=
  let quotient := num / den
  let rest := num % den
  if 2 * rest < den then quotient
  else if den < 2 * rest then quotient + 1
  else quotient + quotient % 2

/-- `(num * 2 ^ k, den)` for a positive `k`, `(num, den * 2 ^ (-k))` for a negative one. -/
def shifted (num den : Nat) (k : Int) : Nat × Nat :=
  if 0 ≤ k then (num * Nat.pow 2 k.toNat, den) else (num, den * Nat.pow 2 (-k).toNat)

/-- The greatest `k` with `2 ^ k ≤ num / den`. -/
def floorLog2 (num den : Nat) : Int :=
  let guess : Int := (num.log2 : Int) - den.log2
  let (n, d) := shifted num den (-guess)
  if d ≤ n then guess else guess - 1

/-- The mantissa and the exponent nearest to `num / den`, whatever their size. -/
def nearest (num den : Nat) : Nat × Int :=
  if num = 0 then (0, -1074) else
  let exponent := max (-1074) (floorLog2 num den - 52)
  let (n, d) := shifted num den (-exponent)
  let mantissa := roundQuotient n d
  if mantissa = Nat.pow 2 53 then (Nat.pow 2 52, exponent + 1) else (mantissa, exponent)

/-- The double nearest to `± num / den`, if that is finite. -/
def ofRatio? (negative : Bool) (num den : Nat) : Option Binary64 :=
  let (mantissa, exponent) := nearest num den
  if h : Canonical mantissa exponent then some ⟨negative, mantissa, exponent, h⟩ else none

/-- The double nearest to a whole number; beyond the finite range it stays at the end of it. -/
def ofInt (value : Int) : Binary64 :=
  let negative := decide (value < 0)
  (ofRatio? negative value.natAbs 1).getD (largest negative)

/-- Equality of values: the two zeros are equal. -/
def equal (a b : Binary64) : Bool :=
  (a.mantissa == 0 && b.mantissa == 0) || a == b

theorem equal_refl (a : Binary64) : equal a a = true := by simp [equal]

theorem equal_comm (a b : Binary64) : equal a b = equal b a := by
  simp only [equal, Bool.and_comm, BEq.comm (a := a)]

end Binary64

end DocStore
