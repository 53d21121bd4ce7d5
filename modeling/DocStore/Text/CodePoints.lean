/-!
# Sets of characters by their borders

A property of characters is kept as the rising list of the code points at which it begins or ceases
to hold. A character has the property if an odd number of borders does not lie beyond it. All such
lists are those of Unicode 17.
-/

namespace DocStore.Text

/-- Whether `c` lies in the set with these borders. -/
def within (borders : List Nat) (c : Char) : Bool :=
  (borders.takeWhile (· ≤ c.toNat)).length % 2 == 1

theorem within_nil (c : Char) : within [] c = false := rfl

/-- The first two borders enclose the first range of the set. -/
theorem within_cons_cons {first last : Nat} {more : List Nat} {c : Char} :
    within (first :: last :: more) c = true ↔
      first ≤ c.toNat ∧ (c.toNat < last ∨ within more c = true) := by
  unfold within
  by_cases hfirst : first ≤ c.toNat
  · by_cases hlast : last ≤ c.toNat
    · simp [hfirst, hlast, Nat.not_lt.2 hlast, Nat.add_assoc]
    · simp [hfirst, hlast, Nat.not_le.1 hlast]
  · simp [hfirst]

end DocStore.Text
