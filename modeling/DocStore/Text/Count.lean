/-!
# Counts in text

A count is a decimal number that fits 64 bits. A leading plus sign is allowed, and so are leading
zeros. The first fault from the left is the one reported.
-/

namespace DocStore.Text

inductive CountFault where
  | empty
  | invalidDigit
  | tooLarge

def CountFault.message : CountFault → String
  | .empty => "cannot parse integer from empty string"
  | .invalidDigit => "invalid digit found in string"
  | .tooLarge => "number too large to fit in target type"

/-- Counts lie below `2 ^ 64`. -/
def limit : Nat := Nat.pow 2 64

/-- The count whose first digits make `n` and whose further digits follow. -/
def countFrom (n : Nat) : List Char → Except CountFault Nat
  | [] => .ok n
  | c :: rest =>
    let next := 10 * n + (c.toNat - '0'.toNat)
    if !c.isDigit then .error .invalidDigit
    else if next < limit then countFrom next rest
    else .error .tooLarge

def count (text : String) : Except CountFault Nat :=
  match text.toList with
  | [] => .error .empty
  | ['+'] => .error .invalidDigit
  | '+' :: digits => countFrom 0 digits
  | digits => countFrom 0 digits

/-! ## What is read as a count -/

theorem le_ofDigitChars (digits : List Char) (start : Nat) :
    start ≤ Nat.ofDigitChars 10 digits start := by
  induction digits generalizing start with
  | nil => exact Nat.le_refl _
  | cons c digits ih =>
    rw [Nat.ofDigitChars_cons]
    exact Nat.le_trans (by omega) (ih _)

/-- The characters are decimal digits, and the number that they make is a count. -/
structure IsDigits (n : Nat) (digits : List Char) : Prop where
  ne_nil : digits ≠ []
  isDigit : ∀ c ∈ digits, c.isDigit = true
  value : Nat.ofDigitChars 10 digits 0 = n
  fits : n < limit

/-- The text is the count in digits, with or without a plus sign before them. -/
def IsCount (text : String) (n : Nat) : Prop :=
  ∃ digits, IsDigits n digits ∧ (text.toList = digits ∨ text.toList = '+' :: digits)

/-- A number does not get smaller by further digits, so one that is too large stays so. -/
theorem countFrom_eq_ok_iff {n m : Nat} {digits : List Char} (hn : n < limit) :
    countFrom n digits = .ok m ↔
      (∀ c ∈ digits, c.isDigit = true) ∧ Nat.ofDigitChars 10 digits n = m ∧ m < limit := by
  induction digits generalizing n with
  | nil =>
    simp only [countFrom, Except.ok.injEq, Nat.ofDigitChars_nil]
    constructor
    · rintro rfl
      exact ⟨List.forall_mem_nil _, rfl, hn⟩
    · exact fun h => h.2.1
  | cons c rest ih =>
    rw [Nat.ofDigitChars_cons, List.forall_mem_cons, countFrom]
    generalize 10 * n + (c.toNat - '0'.toNat) = next
    cases hc : c.isDigit with
    | false => simp
    | true =>
      by_cases hnext : next < limit
      · simp [hnext, ih hnext]
      · have hle := le_ofDigitChars rest next
        simp only [Bool.not_true, Bool.false_eq_true, if_false, if_neg hnext, reduceCtorEq,
          true_and, false_iff]
        rintro ⟨-, rfl, hlt⟩
        omega

theorem IsDigits.countFrom_eq {n : Nat} {digits : List Char} (h : IsDigits n digits) :
    countFrom 0 digits = .ok n :=
  (countFrom_eq_ok_iff (by decide)).2 ⟨h.isDigit, h.value, h.fits⟩

theorem isDigits_of_countFrom {n : Nat} {digits : List Char} (hne : digits ≠ [])
    (h : countFrom 0 digits = .ok n) : IsDigits n digits :=
  have ⟨hdigits, hvalue, hfits⟩ := (countFrom_eq_ok_iff (by decide)).1 h
  ⟨hne, hdigits, hvalue, hfits⟩

theorem count_eq_ok_iff {text : String} {n : Nat} : count text = .ok n ↔ IsCount text n := by
  constructor
  · intro h
    unfold count at h
    split at h
    · cases h
    · cases h
    · rename_i digits hne htext
      exact ⟨digits, isDigits_of_countFrom hne h, .inr htext⟩
    · rename_i hne _ _
      exact ⟨text.toList, isDigits_of_countFrom hne h, .inl rfl⟩
  · rintro ⟨digits, hdigits, htext | htext⟩
    · obtain ⟨c, rest, rfl⟩ := List.exists_cons_of_ne_nil hdigits.ne_nil
      have hplus : c ≠ '+' := by
        rintro rfl
        exact absurd (hdigits.isDigit '+' List.mem_cons_self) (by decide)
      unfold count
      rw [htext]
      split
      · rename_i hnil
        cases hnil
      · rename_i hsign
        exact absurd (List.cons.inj hsign).1 hplus
      · rename_i hsign
        exact absurd (List.cons.inj hsign).1 hplus
      · exact hdigits.countFrom_eq
    · obtain ⟨c, rest, rfl⟩ := List.exists_cons_of_ne_nil hdigits.ne_nil
      unfold count
      rw [htext]
      exact hdigits.countFrom_eq

end DocStore.Text
