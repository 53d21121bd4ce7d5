import DocStore.Binary64.Basic
import Mathlib.Algebra.Group.Nat.Defs
import Mathlib.Data.Nat.Log

/-!
# Whole numbers that are doubles

A double is a whole number of the smallest steps, `2 ^ (-1074)`. Up to `2 ^ 53` a whole number is a
double itself, so nothing is rounded there and different numbers stay different.
-/
namespace DocStore.Proofs.Values.Doubles

open DocStore.Binary64

/-- How many binary places behind the point the smallest step lies. -/
def places : Nat := 1074

/-- How many of the smallest steps make up the magnitude of a double. -/
def steps (a : Binary64) : Nat := a.mantissa * 2 ^ (a.exponent + places).toNat

theorem roundQuotient_one (n : Nat) : roundQuotient n 1 = n := by
  simp [roundQuotient, Nat.mod_one]

theorem shifted_of_nonneg {k : Int} (num den : Nat) (h : 0 ≤ k) :
    shifted num den k = (num * 2 ^ k.toNat, den) := if_pos h

theorem floorLog2_one {n : Nat} (h : n ≠ 0) : floorLog2 n 1 = n.log2 := by
  have hle : 2 ^ n.log2 ≤ n := Nat.log2_self_le h
  have hone : Nat.log2 1 = 0 := by decide
  unfold floorLog2
  rw [hone]
  by_cases hzero : n.log2 = 0
  · rw [hzero]
    have hshift : shifted n 1 (-((0 : Nat) - (0 : Nat) : Int)) = (n, 1) := by simp [shifted]
    simp only [hshift]
    rw [if_pos (Nat.one_le_iff_ne_zero.2 h)]
    rfl
  · have hshift : shifted n 1 (-((n.log2 : Int) - (0 : Nat))) = (n, 2 ^ n.log2) := by
      rw [shifted, if_neg (by omega)]
      simp
    simp only [hshift]
    rw [if_pos hle]
    simp

/-- The first bit of a number goes to the first place of a mantissa. -/
theorem mantissa_bounds {n : Nat} (h : n ≠ 0) (hlt : n < 2 ^ 53) :
    n.log2 ≤ 52 ∧ 2 ^ 52 ≤ n * 2 ^ (52 - n.log2) ∧ n * 2 ^ (52 - n.log2) < 2 ^ 53 := by
  have hlog : n.log2 ≤ 52 := Nat.lt_succ_iff.1 ((Nat.log2_lt h).2 hlt)
  have hsum : n.log2 + (52 - n.log2) = 52 := by omega
  refine ⟨hlog, ?_, ?_⟩
  · calc 2 ^ 52 = 2 ^ n.log2 * 2 ^ (52 - n.log2) := by rw [← Nat.pow_add, hsum]
      _ ≤ n * 2 ^ (52 - n.log2) := Nat.mul_le_mul_right _ (Nat.log2_self_le h)
  · calc n * 2 ^ (52 - n.log2) < 2 ^ (n.log2 + 1) * 2 ^ (52 - n.log2) :=
          Nat.mul_lt_mul_of_pos_right Nat.lt_log2_self (Nat.two_pow_pos _)
      _ = 2 ^ 53 := by
          rw [← Nat.pow_add]
          congr 1
          omega

/-- Below `2 ^ 53` nothing is rounded. -/
theorem nearest_of_lt {n : Nat} (h : n ≠ 0) (hlt : n < 2 ^ 53) :
    nearest n 1 = (n * 2 ^ (52 - n.log2), (n.log2 : Int) - 52) := by
  obtain ⟨hlog, -, hfits⟩ := mantissa_bounds h hlt
  have hexponent : max (-1074) (floorLog2 n 1 - 52) = (n.log2 : Int) - 52 := by
    rw [floorLog2_one h]
    omega
  have hshift : shifted n 1 (-((n.log2 : Int) - 52)) = (n * 2 ^ (52 - n.log2), 1) := by
    rw [shifted_of_nonneg _ _ (by omega)]
    congr 3
    omega
  unfold nearest
  rw [if_neg h]
  simp only [hexponent, hshift, roundQuotient_one]
  exact if_neg (Nat.ne_of_lt hfits)

theorem canonical_of_lt {n : Nat} (h : n ≠ 0) (hlt : n < 2 ^ 53) :
    Canonical (n * 2 ^ (52 - n.log2)) ((n.log2 : Int) - 52) := by
  obtain ⟨hlog, hfirst, hfits⟩ := mantissa_bounds h hlt
  exact ⟨hfits, .inr ⟨hfirst, by omega, by omega⟩⟩

/-- A magnitude up to `2 ^ 53` has a double with just as many steps. -/
theorem steps_ofRatio? (negative : Bool) {n : Nat} (hle : n ≤ 2 ^ 53) :
    ∃ a, ofRatio? negative n 1 = some a ∧ a.negative = negative ∧ steps a = n * 2 ^ places := by
  by_cases hzero : n = 0
  · subst hzero
    refine ⟨zero negative, rfl, rfl, ?_⟩
    rw [Nat.zero_mul]
    exact Nat.zero_mul _
  rcases Nat.lt_or_eq_of_le hle with hlt | rfl
  · obtain ⟨hlog, -, -⟩ := mantissa_bounds hzero hlt
    refine ⟨⟨negative, _, _, canonical_of_lt hzero hlt⟩, ?_, rfl, ?_⟩
    · unfold ofRatio?
      rw [nearest_of_lt hzero hlt]
      exact dif_pos (canonical_of_lt hzero hlt)
    · have hplaces : (52 - n.log2) + ((n.log2 : Int) - 52 + places).toNat = places := by
        unfold places
        omega
      rw [steps, Nat.mul_assoc, ← Nat.pow_add, hplaces]
  · have hcanonical : Canonical (2 ^ 52) 1 := by decide
    have hnearest : nearest (2 ^ 53) 1 = (2 ^ 52, 1) := by decide +kernel
    refine ⟨⟨negative, _, _, hcanonical⟩, ?_, rfl, ?_⟩
    · unfold ofRatio?
      rw [hnearest]
      exact dif_pos hcanonical
    · have hplaces : ((1 : Int) + places).toNat = 1 + places := by
        unfold places
        omega
      rw [steps, hplaces, Nat.pow_add, ← Nat.mul_assoc, ← Nat.pow_add]

theorem steps_ofInt {n : Int} (h : n.natAbs ≤ 2 ^ 53) :
    (ofInt n).negative = decide (n < 0) ∧ steps (ofInt n) = n.natAbs * 2 ^ places := by
  obtain ⟨a, hratio, hnegative, hsteps⟩ := steps_ofRatio? (decide (n < 0)) h
  have hofInt : ofInt n = a := by
    simp only [ofInt, hratio, Option.getD_some]
  rw [hofInt]
  exact ⟨hnegative, hsteps⟩

theorem equal_cases {a b : Binary64} (h : a.equal b = true) :
    (steps a = 0 ∧ steps b = 0) ∨ a = b := by
  rcases Bool.or_eq_true_iff.1 h with hzero | hsame
  · obtain ⟨ha, hb⟩ := Bool.and_eq_true_iff.1 hzero
    left
    rw [steps, steps, eq_of_beq ha, eq_of_beq hb, Nat.zero_mul, Nat.zero_mul]
    exact ⟨rfl, rfl⟩
  · exact .inr (eq_of_beq hsame)

/-- Whole numbers up to `2 ^ 53` that become equal doubles are the same. -/
theorem eq_of_equal_ofInt {m n : Int} (hm : m.natAbs ≤ 2 ^ 53) (hn : n.natAbs ≤ 2 ^ 53)
    (h : (ofInt m).equal (ofInt n) = true) : m = n := by
  obtain ⟨hmsign, hmsteps⟩ := steps_ofInt hm
  obtain ⟨hnsign, hnsteps⟩ := steps_ofInt hn
  have hpos : 0 < 2 ^ places := Nat.two_pow_pos places
  rcases equal_cases h with ⟨hmzero, hnzero⟩ | hsame
  · rw [hmsteps] at hmzero
    rw [hnsteps] at hnzero
    have hmabs : m.natAbs = 0 := (Nat.mul_eq_zero.1 hmzero).resolve_right hpos.ne'
    have hnabs : n.natAbs = 0 := (Nat.mul_eq_zero.1 hnzero).resolve_right hpos.ne'
    omega
  · rw [hsame, hnsteps] at hmsteps
    rw [hsame, hnsign, decide_eq_decide] at hmsign
    have habs : n.natAbs = m.natAbs := Nat.eq_of_mul_eq_mul_right hpos hmsteps
    omega

theorem equal_trans {a b c : Binary64} (hab : a.equal b = true) (hbc : b.equal c = true) :
    a.equal c = true := by
  simp only [equal, Bool.or_eq_true, Bool.and_eq_true, beq_iff_eq] at hab hbc ⊢
  rcases hab with ⟨ha, hb⟩ | rfl
  · rcases hbc with ⟨-, hc⟩ | rfl
    · exact .inl ⟨ha, hc⟩
    · exact .inl ⟨ha, hb⟩
  · exact hbc

end DocStore.Proofs.Values.Doubles
