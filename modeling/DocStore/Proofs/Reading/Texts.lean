import DocStore.Json.Printer
import DocStore.Json.Reader.Value
import DocStore.Proofs.Load.Contents
import DocStore.Proofs.Values.ByteOrder
import Mathlib.Tactic.IntervalCases

/-!
# Texts are read back

The bytes of a text are decoded to its characters. A written text has an escape for each character
that may not stand in it as it is. A reader puts the bytes of the character in the place of its
escape, so at the closing quotation mark it has the bytes of the text.
-/
namespace DocStore.Proofs.Reading.Texts

open DocStore.Text (utf8 utf8Char decodeUtf8? charOf? tailBits?)
open Json (Reader Fault escape renderText)
open Json.Reader (loop repeated textStep textBody)
open Load.Contents (ofNat_byte_eq_iff toNat_ofNat_byte)
open Values.ByteOrder (toNat_lt)

/-- The bytes of characters. -/
def bytesOf (chars : List Char) : List UInt8 := chars.flatMap utf8Char

theorem bytesOf_nil : bytesOf [] = [] := rfl

theorem bytesOf_singleton (c : Char) : bytesOf [c] = utf8Char c := List.append_nil _

theorem bytesOf_append (chars more : List Char) :
    bytesOf (chars ++ more) = bytesOf chars ++ bytesOf more := List.flatMap_append

theorem bytesOf_cons (c : Char) (more : List Char) :
    bytesOf (c :: more) = utf8Char c ++ bytesOf more := List.flatMap_cons

theorem utf8_ofList (chars : List Char) : utf8 (String.ofList chars) = bytesOf chars := by
  rw [utf8, String.toList_ofList, bytesOf]

/-! ## Decoding -/

theorem charOf?_toNat {least : Nat} {c : Char} (h : least ≤ c.toNat) :
    charOf? least c.toNat = some c := by
  have hvalid : c.toNat.isValidChar := c.valid
  rw [charOf?, dif_pos ⟨h, hvalid⟩]
  rfl

theorem toNat_ofNat {n : Nat} (hn : n < 256) : (UInt8.ofNat n).toNat = n := by
  rw [UInt8.toNat_ofNat', Nat.mod_eq_of_lt hn]

theorem ofNat_lt_iff {n : Nat} (hn : n < 256) (b : UInt8) : UInt8.ofNat n < b ↔ n < b.toNat := by
  rw [UInt8.lt_iff_toNat_lt, toNat_ofNat hn]

theorem tailBits?_ofNat {bits : Nat} (h : bits < 64) :
    tailBits? (UInt8.ofNat (0x80 + bits)) = some bits := by
  have hbyte : 0x80 + bits < 256 := by omega
  have hlow : (0x80 : UInt8) ≤ UInt8.ofNat (0x80 + bits) := by
    rw [UInt8.le_iff_toNat_le, toNat_ofNat hbyte]
    exact Nat.le_add_right _ _
  have hhigh : UInt8.ofNat (0x80 + bits) < 0xC0 := by
    rw [ofNat_lt_iff hbyte]
    exact Nat.add_lt_add_left h 0x80
  rw [tailBits?, if_pos ⟨hlow, hhigh⟩, toNat_ofNat hbyte, Nat.add_sub_cancel_left]

section Widths

/-! The first byte of a character tells how many bytes there are. -/

variable {first second third fourth : UInt8} {p q r : Nat} {c : Char}

theorem decode_one (hone : first < 0x80) (hc : charOf? 0 first.toNat = some c)
    (rest : List UInt8) : decodeUtf8? (first :: rest) = (decodeUtf8? rest).map (c :: ·) := by
  conv_lhs => unfold decodeUtf8?
  simp only
  rw [if_pos hone, hc]
  cases decodeUtf8? rest <;> rfl

theorem decode_two (hone : ¬ first < 0x80) (htail : ¬ first < 0xC0) (htwo : first < 0xE0)
    (hp : tailBits? second = some p) (hc : charOf? 0x80 ((first.toNat - 0xC0) * 64 + p) = some c)
    (rest : List UInt8) :
    decodeUtf8? (first :: second :: rest) = (decodeUtf8? rest).map (c :: ·) := by
  conv_lhs => unfold decodeUtf8?
  simp only
  rw [if_neg hone, if_neg htail, if_pos htwo, hp]
  simp only [Option.bind_eq_bind, Option.bind_some, hc]
  cases decodeUtf8? rest <;> rfl

theorem decode_three (hone : ¬ first < 0x80) (htail : ¬ first < 0xC0) (htwo : ¬ first < 0xE0)
    (hthree : first < 0xF0) (hp : tailBits? second = some p) (hq : tailBits? third = some q)
    (hc : charOf? 0x800 (((first.toNat - 0xE0) * 64 + p) * 64 + q) = some c)
    (rest : List UInt8) :
    decodeUtf8? (first :: second :: third :: rest) = (decodeUtf8? rest).map (c :: ·) := by
  conv_lhs => unfold decodeUtf8?
  simp only
  rw [if_neg hone, if_neg htail, if_neg htwo, if_pos hthree, hp]
  simp only [Option.bind_eq_bind, Option.bind_some, hq, hc]
  cases decodeUtf8? rest <;> rfl

theorem decode_four (hone : ¬ first < 0x80) (htail : ¬ first < 0xC0) (htwo : ¬ first < 0xE0)
    (hthree : ¬ first < 0xF0) (hfour : first < 0xF8) (hp : tailBits? second = some p)
    (hq : tailBits? third = some q) (hr : tailBits? fourth = some r)
    (hc : charOf? 0x10000 ((((first.toNat - 0xF0) * 64 + p) * 64 + q) * 64 + r) = some c)
    (rest : List UInt8) :
    decodeUtf8? (first :: second :: third :: fourth :: rest) =
      (decodeUtf8? rest).map (c :: ·) := by
  conv_lhs => unfold decodeUtf8?
  simp only
  rw [if_neg hone, if_neg htail, if_neg htwo, if_neg hthree, if_pos hfour, hp]
  simp only [Option.bind_eq_bind, Option.bind_some, hq, hr, hc]
  cases decodeUtf8? rest <;> rfl

end Widths

/-- The bytes of a character are decoded to it, whatever follows them. -/
theorem decodeUtf8?_utf8Char (c : Char) (rest : List UInt8) :
    decodeUtf8? (utf8Char c ++ rest) = (decodeUtf8? rest).map (c :: ·) := by
  have hlt := toNat_lt c
  have htail (place : Nat) :
      tailBits? (UInt8.ofNat (0x80 + c.toNat / place % 64)) = some (c.toNat / place % 64) :=
    tailBits?_ofNat (Nat.mod_lt _ (by decide))
  unfold utf8Char
  simp only
  split_ifs with hone htwo hthree
  · have hbyte : c.toNat < 256 := by omega
    refine decode_one ((ofNat_lt_iff hbyte _).2 hone) ?_ rest
    rw [toNat_ofNat hbyte, charOf?_toNat (Nat.zero_le _)]
  · have hbyte : 0xC0 + c.toNat / 64 < 256 := by omega
    have hnumber : (0xC0 + c.toNat / 64 - 0xC0) * 64 + c.toNat / 1 % 64 = c.toNat := by omega
    refine decode_two ?_ ?_ ?_ (htail 1) ?_ rest
    iterate 3
      rw [ofNat_lt_iff hbyte]
      simp only [UInt8.reduceToNat]
      omega
    rw [toNat_ofNat hbyte, hnumber, charOf?_toNat (by omega)]
  · have hbyte : 0xE0 + c.toNat / 4096 < 256 := by omega
    have hnumber : ((0xE0 + c.toNat / 4096 - 0xE0) * 64 + c.toNat / 64 % 64) * 64
        + c.toNat / 1 % 64 = c.toNat := by omega
    refine decode_three ?_ ?_ ?_ ?_ (htail 64) (htail 1) ?_ rest
    iterate 4
      rw [ofNat_lt_iff hbyte]
      simp only [UInt8.reduceToNat]
      omega
    rw [toNat_ofNat hbyte, hnumber, charOf?_toNat (by omega)]
  · have hbyte : 0xF0 + c.toNat / 262144 < 256 := by omega
    have hnumber : (((0xF0 + c.toNat / 262144 - 0xF0) * 64 + c.toNat / 4096 % 64) * 64
        + c.toNat / 64 % 64) * 64 + c.toNat / 1 % 64 = c.toNat := by omega
    refine decode_four ?_ ?_ ?_ ?_ ?_ (htail 4096) (htail 64) (htail 1) ?_ rest
    iterate 5
      rw [ofNat_lt_iff hbyte]
      simp only [UInt8.reduceToNat]
      omega
    rw [toNat_ofNat hbyte, hnumber, charOf?_toNat (by omega)]

theorem decodeUtf8?_bytesOf (chars : List Char) : decodeUtf8? (bytesOf chars) = some chars := by
  induction chars with
  | nil => rfl
  | cons c rest ih =>
    rw [bytesOf_cons, decodeUtf8?_utf8Char, ih]
    rfl

/-! ## Loops -/

section Loops

variable {σ α : Type} {atEnd : Fault} {step : σ → Reader (σ ⊕ α)} {broken : Option ReadFault}

/-- From a state on, the steps of a loop take bytes until they give a result. -/
inductive Loops (step : σ → Reader (σ ⊕ α)) (broken : Option ReadFault) :
    σ → List UInt8 → α → List UInt8 → Prop
  | done {state : σ} {bytes rest : List UInt8} {result : α} :
      (step state).run broken bytes = .ok (.inr result, rest) →
      Loops step broken state bytes result rest
  | more {state next : σ} {bytes left rest : List UInt8} {result : α} :
      (step state).run broken bytes = .ok (.inl next, left) → left.length < bytes.length →
      Loops step broken next left result rest → Loops step broken state bytes result rest

/-- A step for each byte is enough, as each takes one. -/
theorem Loops.run_repeated {state : σ} {bytes rest : List UInt8} {result : α}
    (h : Loops step broken state bytes result rest) {fuel : Nat} (hfuel : bytes.length < fuel) :
    (repeated atEnd step fuel state).run broken bytes = .ok (result, rest) := by
  induction h generalizing fuel with
  | done hstep =>
    obtain ⟨fuel, rfl⟩ := Nat.exists_eq_add_one_of_ne_zero (Nat.ne_zero_of_lt hfuel)
    rw [repeated, Reader.run_bind, hstep]
    rfl
  | more hstep hlength _ ih =>
    obtain ⟨fuel, rfl⟩ := Nat.exists_eq_add_one_of_ne_zero (Nat.ne_zero_of_lt hfuel)
    rw [repeated, Reader.run_bind, hstep]
    exact ih (Nat.lt_of_lt_of_le hlength (Nat.le_of_lt_succ hfuel))

theorem Loops.run_loop {state : σ} {bytes rest : List UInt8} {result : α}
    (h : Loops step broken state bytes result rest) :
    (loop atEnd step state).run broken bytes = .ok (result, rest) :=
  h.run_repeated (Nat.lt_succ_self _)

end Loops

/-! ## Strings -/

/-- The quotation mark. -/
def quote : UInt8 := 0x22

/-- The byte may stand in a string as it is. -/
def Plain (b : UInt8) : Prop := 0x20 ≤ b.toNat ∧ b.toNat ≠ 0x22 ∧ b.toNat ≠ 0x5C

variable {broken : Option ReadFault} {before bytes left rest : List UInt8} {result : String}

theorem run_textStep_plain {b : UInt8} (hb : Plain b) :
    (textStep before).run broken (b :: rest) = .ok (.inl (b :: before), rest) := by
  obtain ⟨hlow, hquote, hbackslash⟩ := hb
  have hnext : (Reader.next .endInText).run broken (b :: rest)
      = .ok (Char.ofNat b.toNat, rest) := rfl
  unfold textStep
  rw [Reader.run_bind, hnext]
  dsimp only
  split
  · rename_i h
    exact absurd ((ofNat_byte_eq_iff b '"').1 h) hquote
  · rename_i h
    exact absurd ((ofNat_byte_eq_iff b '\\').1 h) hbackslash
  · rw [toNat_ofNat_byte, if_neg (Nat.not_lt.2 hlow), UInt8.ofNat_toNat]
    rfl

theorem loops_plain (hbytes : ∀ b ∈ bytes, Plain b)
    (h : Loops textStep broken (bytes.reverse ++ before) left result rest) :
    Loops textStep broken before (bytes ++ left) result rest := by
  induction bytes generalizing before with
  | nil => exact h
  | cons b bytes ih =>
    refine .more (run_textStep_plain (hbytes b List.mem_cons_self)) (Nat.lt_succ_self _) ?_
    apply ih fun c hc => hbytes c (List.mem_cons_of_mem b hc)
    rwa [List.reverse_cons, List.append_assoc] at h

theorem plain_of_mem_utf8Char {c : Char} (hcontrol : ¬ c.toNat < 0x20) (hquote : c.toNat ≠ 0x22)
    (hbackslash : c.toNat ≠ 0x5C) {b : UInt8} (hb : b ∈ utf8Char c) : Plain b := by
  have hlt := toNat_lt c
  have hhigh {n : Nat} (hlow : 0x80 ≤ n) (hn : n < 256) : Plain (UInt8.ofNat n) := by
    rw [Plain, toNat_ofNat hn]
    omega
  unfold utf8Char at hb
  simp only at hb
  split_ifs at hb with hone htwo hthree
  all_goals
    simp only [List.mem_cons, List.not_mem_nil, or_false] at hb
  · rw [hb, Plain, toNat_ofNat (by omega)]
    omega
  · rcases hb with rfl | rfl <;> exact hhigh (by omega) (by omega)
  · rcases hb with rfl | rfl | rfl <;> exact hhigh (by omega) (by omega)
  · rcases hb with rfl | rfl | rfl | rfl <;> exact hhigh (by omega) (by omega)

/-- A control character is read from its hexadecimal digits. -/
theorem loops_control {c : Char} (hc : c.toNat < 0x20)
    (h : Loops textStep broken ((utf8Char c).reverse ++ before) left result rest) :
    Loops textStep broken before (bytesOf
      ['\\', 'u', '0', '0', Nat.digitChar (c.toNat / 16), Nat.digitChar (c.toNat % 16)] ++ left)
      result rest := by
  rw [← Char.ofNat_toNat c] at h
  generalize c.toNat = n at hc h ⊢
  interval_cases n <;> exact .more rfl (by simp [bytesOf, utf8Char]; omega) h

/-- The escape of a character takes a reader on by the bytes of the character. -/
theorem loops_escape {c : Char}
    (h : Loops textStep broken ((utf8Char c).reverse ++ before) left result rest) :
    Loops textStep broken before (bytesOf (escape c) ++ left) result rest := by
  unfold escape
  split
  case h_8 hquote hbackslash _ _ _ _ _ =>
    split_ifs with hcontrol
    · exact loops_control hcontrol h
    · rw [bytesOf_singleton]
      refine loops_plain (fun b hb => plain_of_mem_utf8Char hcontrol ?_ ?_ hb) h
      · exact fun he => hquote (Char.toNat_inj.1 he)
      · exact fun he => hbackslash (Char.toNat_inj.1 he)
  all_goals exact .more rfl (Nat.lt_succ_of_lt (Nat.lt_succ_self _)) h

theorem loops_text (chars read : List Char) :
    Loops textStep broken (bytesOf read).reverse
      (bytesOf (chars.flatMap escape) ++ quote :: rest) (String.ofList (read ++ chars)) rest := by
  induction chars generalizing read with
  | nil =>
    refine .done ?_
    have hnext : (Reader.next .endInText).run broken (quote :: rest) = .ok ('"', rest) := rfl
    rw [List.flatMap_nil, bytesOf_nil, List.nil_append, List.append_nil]
    unfold textStep
    rw [Reader.run_bind, hnext]
    simp only [List.reverse_reverse, decodeUtf8?_bytesOf]
    rfl
  | cons c chars ih =>
    rw [List.flatMap_cons, bytesOf_append, List.append_assoc]
    refine loops_escape ?_
    have hread := ih (read ++ [c])
    rwa [bytesOf_append, List.reverse_append, bytesOf_singleton, List.append_assoc,
      List.singleton_append] at hread

/-- A written text is read back after its opening quotation mark. -/
theorem run_textBody (chars : List Char) (broken : Option ReadFault) (rest : List UInt8) :
    textBody.run broken (bytesOf (chars.flatMap escape) ++ quote :: rest)
      = .ok (String.ofList chars, rest) :=
  (loops_text chars []).run_loop

theorem bytesOf_renderText (text : String) :
    bytesOf (renderText text) = quote :: (bytesOf (text.toList.flatMap escape) ++ [quote]) := by
  rw [renderText, List.cons_append, bytesOf_cons, bytesOf_append]
  rfl

/-- A written text is read back. -/
theorem run_text (text : String) (broken : Option ReadFault) (rest : List UInt8) :
    Reader.text.run broken (bytesOf (renderText text) ++ rest) = .ok (text, rest) := by
  have hbody := run_textBody text.toList broken rest
  rw [String.ofList_toList] at hbody
  rw [bytesOf_renderText, List.cons_append, List.append_assoc, List.singleton_append]
  exact hbody

end DocStore.Proofs.Reading.Texts
