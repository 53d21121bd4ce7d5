import Mathlib.Algebra.Order.Floor.Div
import Mathlib.Data.List.Basic

/-!
# Slices of a list

`slice size xs i` is the stretch of `xs` from place `i * size` on, `size` long or as long as the
list goes. A list of length `n` is made up by `n ⌈/⌉ size` of them, all of which are full but the last.
-/
namespace DocStore.Proofs.Load.Slices

variable {α : Type} {size : Nat}

def slice (size : Nat) (xs : List α) (i : Nat) : List α := (xs.drop (i * size)).take size

def slices (size : Nat) (xs : List α) (count : Nat) : List (List α) :=
  (List.range count).map (slice size xs)

/-- The parts make up the list in order, each as long as `size` except for the last, which may be
shorter. None is empty. -/
structure Partition (size : Nat) (xs : List α) (parts : List (List α)) : Prop where
  flatten_eq : parts.flatten = xs
  length_eq : parts.length = xs.length ⌈/⌉ size
  full : ∀ part ∈ parts.dropLast, part.length = size
  last : ∀ part ∈ parts.getLast?, 1 ≤ part.length ∧ part.length ≤ size
  ne_nil : ∀ part ∈ parts, part ≠ []

theorem slices_succ (xs : List α) (count : Nat) :
    slices size xs (count + 1) = slices size xs count ++ [slice size xs count] := by
  simp [slices, List.range_succ]

theorem length_slices (xs : List α) (count : Nat) : (slices size xs count).length = count := by
  simp [slices]

theorem length_slice (xs : List α) (i : Nat) :
    (slice size xs i).length = min size (xs.length - i * size) := by
  simp [slice]

/-- A slice within a list does not change when the list grows. -/
theorem slice_append {xs : List α} {i : Nat} (h : (i + 1) * size ≤ xs.length) (ys : List α) :
    slice size (xs ++ ys) i = slice size xs i := by
  rw [Nat.succ_mul] at h
  unfold slice
  rw [List.drop_append_of_le_length (by omega), List.take_append_of_le_length]
  rw [List.length_drop]
  omega

theorem slices_append {xs : List α} {count : Nat} (h : count * size ≤ xs.length) (ys : List α) :
    slices size (xs ++ ys) count = slices size xs count := by
  apply List.map_congr_left
  intro i hi
  apply slice_append
  exact Nat.le_trans (Nat.mul_le_mul_right size (List.mem_range.1 hi)) h

/-- The slices up to a place are the list up to there. -/
theorem flatten_slices (xs : List α) (count : Nat) :
    (slices size xs count).flatten = xs.take (count * size) := by
  induction count with
  | zero => simp [slices]
  | succ count ih =>
    rw [slices_succ, List.flatten_append, ih, Nat.succ_mul, List.take_add]
    simp [slice]

theorem ceilDiv_of_dvd (hsize : 0 < size) {n : Nat} (h : n % size = 0) :
    n ⌈/⌉ size = n / size := by
  have hn := Nat.div_add_mod' n size
  rw [h] at hn
  rw [Nat.ceilDiv_eq_add_pred_div]
  apply Nat.div_eq_of_lt_le
  · omega
  · rw [Nat.succ_mul]
    omega

theorem ceilDiv_of_not_dvd (hsize : 0 < size) {n : Nat} (h : 0 < n % size) :
    n ⌈/⌉ size = n / size + 1 := by
  have hn := Nat.div_add_mod' n size
  have hlt := Nat.mod_lt n hsize
  rw [Nat.ceilDiv_eq_add_pred_div]
  apply Nat.div_eq_of_lt_le
  · rw [Nat.succ_mul]
    omega
  · rw [Nat.succ_mul, Nat.succ_mul]
    omega

theorem le_ceilDiv_mul (hsize : 0 < size) (n : Nat) : n ≤ n ⌈/⌉ size * size := by
  rw [Nat.mul_comm]
  exact le_smul_ceilDiv hsize

/-- Rounding up overshoots by less than one slice. -/
theorem ceilDiv_mul_lt (hsize : 0 < size) (n : Nat) : n ⌈/⌉ size * size < n + size := by
  rw [Nat.ceilDiv_eq_add_pred_div]
  have hle := Nat.div_mul_le_self (n + size - 1) size
  omega

/-- Slice `i` is full if there is one after it. -/
theorem length_slice_of_succ_lt (hsize : 0 < size) {xs : List α} {i : Nat}
    (h : i + 1 < xs.length ⌈/⌉ size) : (slice size xs i).length = size := by
  have hlt := ceilDiv_mul_lt hsize xs.length
  have hle := Nat.mul_le_mul_right size h
  rw [Nat.succ_mul, Nat.succ_mul] at hle
  rw [length_slice]
  omega

theorem length_slice_pos (hsize : 0 < size) {xs : List α} {i : Nat}
    (h : i < xs.length ⌈/⌉ size) : 0 < (slice size xs i).length := by
  have hlt := ceilDiv_mul_lt hsize xs.length
  have hle := Nat.mul_le_mul_right size h
  rw [Nat.succ_mul] at hle
  rw [length_slice]
  omega

theorem slices_partition (hsize : 0 < size) (xs : List α) :
    Partition size xs (slices size xs (xs.length ⌈/⌉ size)) := by
  constructor
  · rw [flatten_slices]
    exact List.take_of_length_le (le_ceilDiv_mul hsize xs.length)
  · exact length_slices xs _
  · intro part hpart
    cases hcount : xs.length ⌈/⌉ size with
    | zero =>
      rw [hcount] at hpart
      exact absurd hpart List.not_mem_nil
    | succ count =>
      rw [hcount, slices_succ, List.dropLast_concat] at hpart
      obtain ⟨i, hi, rfl⟩ := List.mem_map.1 hpart
      have hlt := List.mem_range.1 hi
      exact length_slice_of_succ_lt hsize (by omega)
  · intro part hpart
    cases hcount : xs.length ⌈/⌉ size with
    | zero =>
      rw [hcount] at hpart
      cases hpart
    | succ count =>
      rw [hcount, slices_succ, List.getLast?_concat] at hpart
      obtain rfl := Option.mem_some.1 hpart
      refine ⟨length_slice_pos hsize (by omega), ?_⟩
      rw [length_slice]
      exact Nat.min_le_left _ _
  · intro part hpart
    obtain ⟨i, hi, rfl⟩ := List.mem_map.1 hpart
    exact List.ne_nil_of_length_pos (length_slice_pos hsize (List.mem_range.1 hi))

end DocStore.Proofs.Load.Slices
