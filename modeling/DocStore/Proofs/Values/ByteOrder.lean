import DocStore.Text.Utf8
import Mathlib.Tactic.SplitIfs

/-!
# The order of texts is the order of their bytes

A character with a greater number has greater bytes: more of them if it needs them, and then a
greater first one. So texts that are ordered by their characters are ordered by their bytes.
-/
namespace DocStore.Proofs.Values.ByteOrder

open DocStore.Text (utf8 utf8Char)

/-- The number of bytes is written out, so that `omega` can tell what is below it. -/
theorem ofNat_lt_ofNat_iff {a b : Nat} (ha : a < 256) (hb : b < 256) :
    UInt8.ofNat a < UInt8.ofNat b ↔ a < b := UInt8.ofNat_lt_iff_lt ha hb

theorem ofNat_eq_ofNat_iff {a b : Nat} (ha : a < 256) (hb : b < 256) :
    UInt8.ofNat a = UInt8.ofNat b ↔ a = b := by
  rw [← UInt8.toNat_inj, UInt8.toNat_ofNat', UInt8.toNat_ofNat', Nat.mod_eq_of_lt ha,
    Nat.mod_eq_of_lt hb]

theorem toNat_lt (c : Char) : c.toNat < 0x110000 := by
  have hvalid : c.toNat.isValidChar := c.valid
  rcases hvalid with hbelow | ⟨-, hlast⟩
  · omega
  · exact hlast

/-- The bytes of two characters differ before one of them ends, so what follows does not count. -/
theorem utf8Char_lt_utf8Char {c d : Char} (h : c < d) (rest rest' : List UInt8) :
    utf8Char c ++ rest < utf8Char d ++ rest' := by
  have hlt : c.toNat < d.toNat := h
  have hd : d.toNat < 0x110000 := toNat_lt d
  unfold utf8Char
  generalize c.toNat = n at *
  generalize d.toNat = m at *
  simp only
  -- Each byte is a digit of the number, with a head that tells how many bytes there are.
  split_ifs <;>
    simp (disch := omega) only [List.cons_append, List.nil_append, List.cons_lt_cons_iff,
      ofNat_lt_ofNat_iff, ofNat_eq_ofNat_iff] <;>
    omega

theorem utf8Char_ne_nil (c : Char) : utf8Char c ≠ [] := by
  unfold utf8Char
  simp only
  split_ifs <;> exact List.cons_ne_nil _ _

theorem flatMap_lt_flatMap {cs ds : List Char} (h : cs < ds) :
    cs.flatMap utf8Char < ds.flatMap utf8Char := by
  induction cs generalizing ds with
  | nil =>
    cases ds with
    | nil => exact absurd h (List.not_lt_nil _)
    | cons d ds =>
      obtain ⟨first, more, hbytes⟩ := List.exists_cons_of_ne_nil (utf8Char_ne_nil d)
      rw [List.flatMap_nil, List.flatMap_cons, hbytes]
      exact List.nil_lt_cons _ _
  | cons c cs ih =>
    cases ds with
    | nil => exact absurd h (List.not_lt_nil _)
    | cons d ds =>
      rw [List.flatMap_cons, List.flatMap_cons]
      rcases List.cons_lt_cons_iff.1 h with hlt | ⟨rfl, hrest⟩
      · exact utf8Char_lt_utf8Char hlt _ _
      · exact List.append_left_lt (ih hrest)

theorem utf8_lt_utf8_iff {first second : String} : utf8 first < utf8 second ↔ first < second := by
  constructor
  · intro hbytes
    refine String.not_le.1 fun hle => ?_
    rcases Std.le_iff_lt_or_eq.1 hle with hlt | rfl
    · exact List.lt_asymm hbytes (flatMap_lt_flatMap hlt)
    · exact List.lt_irrefl _ hbytes
  · exact fun hlt => flatMap_lt_flatMap hlt

end DocStore.Proofs.Values.ByteOrder
