import DocStore.Json.Printer
import Mathlib.Data.List.TakeDrop

/-!
# The text of a value is one line

Texts escape all control characters, and what else is in the text of a value is printed as it is
known to be: digits, signs, brackets and names. So no control character is in it, and no line break.
-/
namespace DocStore.Proofs.CommandLine.Lines

/-- All characters show, or are beyond ASCII: none is a control character below the space. -/
def Shown (text : List Char) : Prop := ∀ c ∈ text, 0x20 ≤ c.toNat

instance (text : List Char) : Decidable (Shown text) :=
  decidable_of_iff (text.all fun c => Nat.ble 0x20 c.toNat) (by simp [Shown])

variable {text more : List Char} {c : Char}

theorem shown_append : Shown (text ++ more) ↔ Shown text ∧ Shown more := by
  simp only [Shown, List.forall_mem_append]

theorem shown_cons : Shown (c :: text) ↔ 0x20 ≤ c.toNat ∧ Shown text := by
  simp only [Shown, List.forall_mem_cons]

theorem shown_nil : Shown [] := List.forall_mem_nil _

theorem Shown.subset (h : Shown text) (hsubset : more ⊆ text) : Shown more :=
  fun c hc => h c (hsubset hc)

/-! ## Digits and numbers -/

theorem toNat_digitChar (n : Nat) : 0x20 ≤ (Nat.digitChar n).toNat := by
  by_cases hlt : n < 16
  · revert n
    decide
  · rw [Nat.digitChar_eq_star.2 (by omega)]
    decide

theorem shown_toDigits (n : Nat) : Shown (Nat.toDigits 10 n) := by
  intro c hc
  have hdigit := Nat.isDigit_of_mem_toDigits (by decide) (by decide) hc
  rw [Char.isDigit, Bool.and_eq_true, decide_eq_true_eq] at hdigit
  have hlower : 48 ≤ c.toNat := hdigit.1
  omega

theorem shown_replicate (n : Nat) (h : 0x20 ≤ c.toNat) : Shown (List.replicate n c) := by
  intro d hd
  rw [(List.mem_replicate.1 hd).2]
  exact h

theorem shown_integer (n : Integer) : Shown n.render := by
  rw [Integer.render, shown_append]
  refine ⟨?_, shown_toDigits _⟩
  split
  · exact shown_cons.2 ⟨by decide, shown_nil⟩
  · exact shown_nil

/-- Digits stay, or zeros, a point and an exponent are put to them. -/
theorem shown_layout {digits : List Char} (h : Shown digits) (exponent : Int) :
    Shown (Binary64.layout digits exponent) := by
  have hkept : Shown (digits.reverse.dropWhile (· == '0')).reverse := by
    refine h.subset fun c hc => List.mem_reverse.1 ?_
    exact (List.dropWhile_sublist _).subset (List.mem_reverse.1 hc)
  unfold Binary64.layout
  simp only
  generalize (digits.reverse.dropWhile (· == '0')).reverse = kept at hkept
  split
  · -- All digits stand before the point, or some of them behind it.
    have hpadded : ∀ n, Shown (kept ++ List.replicate n '0') := fun n =>
      shown_append.2 ⟨hkept, shown_replicate n (by decide)⟩
    refine shown_append.2 ⟨(hpadded _).subset (List.take_subset _ _),
      shown_cons.2 ⟨by decide, ?_⟩⟩
    split
    · exact shown_cons.2 ⟨by decide, shown_nil⟩
    · exact (hpadded _).subset (List.drop_subset _ _)
  · split
    · refine shown_cons.2 ⟨by decide, shown_cons.2 ⟨by decide, ?_⟩⟩
      exact shown_append.2 ⟨shown_replicate _ (by decide), hkept⟩
    · refine shown_append.2 ⟨?_, shown_cons.2 ⟨by decide, shown_cons.2 ⟨?_, shown_toDigits _⟩⟩⟩
      · split
        · obtain ⟨hfirst, hrest⟩ := shown_cons.1 hkept
          exact shown_cons.2 ⟨hfirst, shown_cons.2 ⟨by decide, hrest⟩⟩
        · exact hkept
      · split <;> decide

theorem shown_binary64 (x : Binary64) : Shown x.render := by
  have hsign : Shown (if x.negative then ['-'] else []) := by
    split
    · exact shown_cons.2 ⟨by decide, shown_nil⟩
    · exact shown_nil
  unfold Binary64.render
  simp only
  split
  · exact shown_append.2 ⟨hsign, by decide⟩
  · exact shown_append.2 ⟨hsign, shown_layout (shown_toDigits _) _⟩

/-! ## Texts and values -/

theorem shown_escape (c : Char) : Shown (Json.escape c) := by
  unfold Json.escape
  split
  case h_8 =>
    split
    · have hhigh := toNat_digitChar (c.toNat / 16)
      have hlow := toNat_digitChar (c.toNat % 16)
      simp only [shown_cons]
      exact ⟨by decide, by decide, by decide, by decide, hhigh, hlow, shown_nil⟩
    · rename_i hcontrol
      exact shown_cons.2 ⟨Nat.le_of_not_lt hcontrol, shown_nil⟩
  all_goals decide

theorem shown_renderText (text : String) : Shown (Json.renderText text) := by
  refine shown_append.2 ⟨shown_cons.2 ⟨by decide, ?_⟩, shown_cons.2 ⟨by decide, shown_nil⟩⟩
  intro c hc
  obtain ⟨given, -, hescaped⟩ := List.mem_flatMap.1 hc
  exact shown_escape given c hescaped

mutual

theorem shown_renderChars : ∀ value : Json, Shown value.renderChars
  | .null => by decide
  | .bool true => by decide
  | .bool false => by decide
  | .num (.int n) => shown_integer n
  | .num (.float x) => shown_binary64 x
  | .str text => shown_renderText text
  | .arr [] => by decide
  | .arr (item :: more) => by
    rw [Json.renderChars]
    exact shown_cons.2 ⟨by decide, shown_append.2 ⟨shown_renderChars item, shown_renderItems more⟩⟩
  | .obj [] => by decide
  | .obj ((name, value) :: more) => by
    rw [Json.renderChars]
    exact shown_cons.2 ⟨by decide, shown_append.2 ⟨shown_renderText name, shown_cons.2 ⟨by decide,
      shown_append.2 ⟨shown_renderChars value, shown_renderFields more⟩⟩⟩⟩

theorem shown_renderItems : ∀ items : List Json, Shown (Json.renderItems items)
  | [] => by decide
  | item :: more => by
    rw [Json.renderItems]
    exact shown_cons.2 ⟨by decide, shown_append.2 ⟨shown_renderChars item, shown_renderItems more⟩⟩

theorem shown_renderFields : ∀ fields : List (String × Json), Shown (Json.renderFields fields)
  | [] => by decide
  | (name, value) :: more => by
    rw [Json.renderFields]
    exact shown_cons.2 ⟨by decide, shown_append.2 ⟨shown_renderText name, shown_cons.2 ⟨by decide,
      shown_append.2 ⟨shown_renderChars value, shown_renderFields more⟩⟩⟩⟩

end

/-- The text of a value has no line break in it. -/
theorem newline_notMem_render (value : Json) : '\n' ∉ value.render.toList := by
  rw [Json.render, String.toList_ofList]
  intro hmem
  exact absurd (shown_renderChars value '\n' hmem) (by decide)

end DocStore.Proofs.CommandLine.Lines
