import DocStore.Proofs.Reading.Texts
import DocStore.Text.Count

/-!
# Whole numbers are read back

A written whole number is its decimal digits, of which the first is no zero unless it is the only
one. A reader takes them all up to a byte that belongs to no number, and finds the number again if
it fits 64 bits.
-/
namespace DocStore.Proofs.Reading.Numerals

open DocStore.Text (le_ofDigitChars utf8Char)
open Json (Numeral Reader takeIn)
open Json.Reader (digitRun exponent fraction integer isBlank isDigit number numeral token
  wholeDigits)
open Load.Contents (ofNat_byte_eq_iff run_token_pad toNat_ofNat_byte)
open Texts (bytesOf bytesOf_cons toNat_ofNat)

/-- The byte belongs to no number: no digit, no point and no mark of a power of ten. -/
def Ends (b : UInt8) : Prop := isDigit b = false ∧ b.toNat ≠ 0x2E ∧ b.toNat ≠ 0x65 ∧ b.toNat ≠ 0x45

variable {c : Char} {b : UInt8} {digits : List Char} {broken : Option ReadFault}

/-! ## Digits and their bytes -/

theorem toNat_bounds_of_isDigit (hc : c.isDigit = true) : 0x30 ≤ c.toNat ∧ c.toNat ≤ 0x39 :=
  Char.isDigit_iff_toNat.1 hc

theorem utf8Char_digit (hc : c.isDigit = true) : utf8Char c = [UInt8.ofNat c.toNat] := by
  have hbounds := toNat_bounds_of_isDigit hc
  exact if_pos (by omega)

theorem isDigit_iff (b : UInt8) : isDigit b = true ↔ 0x30 ≤ b.toNat ∧ b.toNat ≤ 0x39 := by
  rw [isDigit, Bool.and_eq_true, decide_eq_true_iff, decide_eq_true_iff, UInt8.le_iff_toNat_le,
    UInt8.le_iff_toNat_le]
  rfl

theorem isDigit_ofNat (hc : c.isDigit = true) : isDigit (UInt8.ofNat c.toNat) = true := by
  have hbounds := toNat_bounds_of_isDigit hc
  rw [isDigit_iff, toNat_ofNat (by omega)]
  exact hbounds

theorem isBlank_of_isDigit (hb : isDigit b = true) : isBlank b = false := by
  have hbounds := (isDigit_iff b).1 hb
  have hne {blank : UInt8} (hblank : blank.toNat < 0x30) : (b == blank) = false := by
    rw [beq_eq_false_iff_ne]
    rintro rfl
    omega
  rw [isBlank, hne (by decide), hne (by decide), hne (by decide), hne (by decide)]
  rfl

theorem ofNat_toNat_ofNat (hc : c.isDigit = true) :
    Char.ofNat (UInt8.ofNat c.toNat).toNat = c := by
  have hbounds := toNat_bounds_of_isDigit hc
  rw [toNat_ofNat (by omega), Char.ofNat_toNat]

theorem isDigit_ofNat_byte (b : UInt8) : (Char.ofNat b.toNat).isDigit = isDigit b := by
  rw [Bool.eq_iff_iff, Char.isDigit_iff_toNat, isDigit_iff, toNat_ofNat_byte]
  rfl

theorem run_digitRun (hdigits : ∀ c ∈ digits, c.isDigit = true) (hb : isDigit b = false)
    (broken : Option ReadFault) (rest : List UInt8) :
    digitRun.run broken (bytesOf digits ++ b :: rest) = .ok (digits, b :: rest) := by
  have hall : ∀ byte ∈ bytesOf digits, isDigit byte = true := by
    intro byte hbyte
    obtain ⟨c, hc, hmem⟩ := List.mem_flatMap.1 hbyte
    rw [utf8Char_digit (hdigits c hc), List.mem_singleton] at hmem
    rw [hmem]
    exact isDigit_ofNat (hdigits c hc)
  have hchars : (bytesOf digits).map (fun byte => Char.ofNat byte.toNat) = digits := by
    clear hall
    induction digits with
    | nil => rfl
    | cons c digits ih =>
      have hc := hdigits c List.mem_cons_self
      rw [bytesOf_cons, utf8Char_digit hc, List.singleton_append, List.map_cons,
        ofNat_toNat_ofNat hc, ih fun d hd => hdigits d (List.mem_cons_of_mem c hd)]
  have htake : (bytesOf digits ++ b :: rest).takeWhile isDigit = bytesOf digits := by
    rw [List.takeWhile_append_of_pos hall, List.takeWhile_cons_of_neg (by simp [hb]),
      List.append_nil]
  have hdrop : (bytesOf digits ++ b :: rest).dropWhile isDigit = b :: rest := by
    rw [List.dropWhile_append_of_pos hall, List.dropWhile_cons_of_neg (by simp [hb])]
  unfold digitRun
  simp only [htake, hdrop, hchars]

/-! ## The digits of a number -/

theorem digits_toDigits (n : Nat) : ∀ c ∈ Nat.toDigits 10 n, c.isDigit = true :=
  fun _ => Nat.isDigit_of_mem_toDigits (by decide) (by decide)

/-- There is a first digit, which is no zero unless the number is. -/
theorem toDigits_eq_cons (n : Nat) :
    ∃ c more, Nat.toDigits 10 n = c :: more ∧ c.isDigit = true ∧ (0 < n → c ≠ '0') := by
  induction n using Nat.strongRecOn with
  | ind n ih =>
    by_cases hsmall : n < 10
    · refine ⟨_, [], Nat.toDigits_of_lt_base hsmall, ?_⟩
      interval_cases n <;> decide
    · obtain ⟨c, more, hdigits, hdigit, hc⟩ := ih (n / 10) (by omega)
      rw [Nat.toDigits_of_base_le (by decide) (Nat.not_lt.1 hsmall), hdigits]
      exact ⟨c, _, rfl, hdigit, fun _ => hc (by omega)⟩

/-- Digits are taken in as long as the number that they have made so far fits 64 bits. -/
theorem takeIn_eq {start : Nat} (h : Nat.ofDigitChars 10 digits start < 0x10000000000000000) :
    takeIn start digits = (Nat.ofDigitChars 10 digits start, []) := by
  induction digits generalizing start with
  | nil => rfl
  | cons c digits ih =>
    rw [Nat.ofDigitChars_cons] at h ⊢
    have hstart : 10 * start + (c.toNat - '0'.toNat) < 0x10000000000000000 :=
      Nat.lt_of_le_of_lt (le_ofDigitChars _ _) h
    rw [takeIn, if_pos hstart, ih h]

/-! ## Reading a number -/

theorem run_peek (broken : Option ReadFault) (b : UInt8) (rest : List UInt8) :
    Reader.peek.run broken (b :: rest) = .ok (some (Char.ofNat b.toNat), b :: rest) := rfl

variable {n : Nat}

theorem run_wholeDigits (hb : Ends b) (broken : Option ReadFault) (rest : List UInt8) :
    (wholeDigits .endInValue).run broken (bytesOf (Nat.toDigits 10 n) ++ b :: rest)
      = .ok (Nat.toDigits 10 n, b :: rest) := by
  rcases Nat.eq_zero_or_pos n with rfl | hn
  · have hnone : (Char.ofNat b.toNat).isDigit = false := by rw [isDigit_ofNat_byte, hb.1]
    have hzero : (wholeDigits .endInValue).run broken (bytesOf (Nat.toDigits 10 0) ++ b :: rest)
        = (if (Char.ofNat b.toNat).isDigit then Reader.fail .invalidNumber
            else pure ['0'] : Reader (List Char)).run broken (b :: rest) := rfl
    rw [hzero, hnone]
    rfl
  · obtain ⟨c, more, hdigits, hdigit, hc⟩ := toDigits_eq_cons n
    have hrun := run_digitRun (digits_toDigits n) hb.1 broken rest
    rw [hdigits, bytesOf_cons, utf8Char_digit hdigit, List.append_assoc,
      List.singleton_append] at hrun ⊢
    unfold wholeDigits
    rw [Reader.run_bind, run_peek, ofNat_toNat_ofNat hdigit]
    dsimp only
    split
    · rename_i h
      cases h
    · rename_i h
      exact absurd (Option.some.inj h) (hc hn)
    · rename_i h
      obtain rfl := Option.some.inj h
      rw [if_pos hdigit]
      exact hrun

theorem run_fraction (hb : Ends b) (broken : Option ReadFault) (rest : List UInt8) :
    (fraction .endInValue).run broken (b :: rest) = .ok (none, b :: rest) := by
  have hpoint : some (Char.ofNat b.toNat) ≠ some '.' :=
    fun h => hb.2.1 ((ofNat_byte_eq_iff b '.').1 (Option.some.inj h))
  unfold fraction
  rw [Reader.run_bind, run_peek]
  dsimp only
  rw [if_pos hpoint]
  rfl

theorem run_exponent (hb : Ends b) (bounded : Bool) (broken : Option ReadFault)
    (rest : List UInt8) :
    (exponent bounded .endInValue).run broken (b :: rest) = .ok (none, b :: rest) := by
  have hsmall : some (Char.ofNat b.toNat) ≠ some 'e' :=
    fun h => hb.2.2.1 ((ofNat_byte_eq_iff b 'e').1 (Option.some.inj h))
  have hgreat : some (Char.ofNat b.toNat) ≠ some 'E' :=
    fun h => hb.2.2.2 ((ofNat_byte_eq_iff b 'E').1 (Option.some.inj h))
  unfold exponent
  rw [Reader.run_bind, run_peek]
  dsimp only
  rw [if_pos ⟨hsmall, hgreat⟩]
  rfl

theorem number?_ofParts (hn : n < 0x10000000000000000) :
    ∃ whole : Integer, whole.value = n ∧
      (Numeral.ofParts false (Nat.toDigits 10 n) none none).number? = some (.int whole) := by
  have htaken : takeIn 0 (Nat.toDigits 10 n) = (n, []) := by
    rw [takeIn_eq (by rwa [Nat.ofDigitChars_ten_toDigits]), Nat.ofDigitChars_ten_toDigits]
  have hparts : Numeral.ofParts false (Nat.toDigits 10 n) none none = ⟨false, n, 0, true⟩ := by
    simp only [Numeral.ofParts, htaken]
    rfl
  have hfits : -0x8000000000000000 ≤ (n : Int) ∧ (n : Int) < 0x10000000000000000 := by omega
  have hinteger : (⟨false, n, 0, true⟩ : Numeral).integer? = some ⟨n, hfits.1, hfits.2⟩ := by
    unfold Numeral.integer?
    simp only [Bool.not_true, Bool.false_eq_true, if_false]
    rw [Integer.ofInt?, dif_pos hfits]
  refine ⟨⟨n, hfits.1, hfits.2⟩, rfl, ?_⟩
  rw [hparts, Numeral.number?, hinteger]

theorem run_number (hn : n < 0x10000000000000000) (hb : Ends b) (broken : Option ReadFault)
    (rest : List UInt8) :
    ∃ whole : Integer, whole.value = n ∧
      (number false).run broken (bytesOf (Nat.toDigits 10 n) ++ b :: rest)
        = .ok (.int whole, b :: rest) := by
  obtain ⟨whole, hvalue, hnumber⟩ := number?_ofParts hn
  have hnumeral : (numeral false).run broken (bytesOf (Nat.toDigits 10 n) ++ b :: rest)
      = .ok (.ofParts false (Nat.toDigits 10 n) none none, b :: rest) := by
    unfold numeral
    rw [Reader.run_bind, run_wholeDigits hb]
    dsimp only
    rw [Reader.run_bind, run_fraction hb]
    dsimp only
    rw [Reader.run_bind, run_exponent hb]
    rfl
  refine ⟨whole, hvalue, ?_⟩
  unfold number
  rw [Reader.run_bind, hnumeral]
  dsimp only
  rw [hnumber]
  rfl

/-- A written whole number is read back where it is allowed. -/
theorem run_integer {least most : Int} (hn : n < 0x10000000000000000) (hleast : least ≤ n)
    (hmost : n ≤ most) (name : String) (hb : Ends b) (broken : Option ReadFault)
    (rest : List UInt8) :
    (integer least most name).run broken (bytesOf (Nat.toDigits 10 n) ++ b :: rest)
      = .ok ((n : Int), b :: rest) := by
  obtain ⟨whole, hvalue, hnumber⟩ := run_number hn hb broken rest
  obtain ⟨c, more, hdigits, hdigit, -⟩ := toDigits_eq_cons n
  have htoken : token.run broken (bytesOf (Nat.toDigits 10 n) ++ b :: rest)
      = .ok (some c, bytesOf (Nat.toDigits 10 n) ++ b :: rest) := by
    rw [hdigits, bytesOf_cons, utf8Char_digit hdigit, List.append_assoc, List.singleton_append]
    have hfirst := run_token_pad (List.forall_mem_nil _)
      (isBlank_of_isDigit (isDigit_ofNat hdigit)) broken (bytesOf more ++ b :: rest)
    rwa [List.nil_append, ofNat_toNat_ofNat hdigit] at hfirst
  have hminus : c ≠ '-' := by
    rintro rfl
    cases hdigit
  unfold integer
  rw [Reader.run_bind, htoken]
  dsimp only
  split
  · rename_i h
    exact absurd (Option.some.inj h) hminus
  · rename_i h
    obtain rfl := Option.some.inj h
    rw [if_pos hdigit, Reader.run_bind, hnumber]
    dsimp only
    rw [if_pos (by rw [hvalue]; exact ⟨hleast, hmost⟩), hvalue]
    rfl
  · rename_i h
    cases h

end DocStore.Proofs.Reading.Numerals
