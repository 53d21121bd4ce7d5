import DocStore.Proofs.Store.Identity
import Mathlib.Algebra.Group.Nat.Defs
import Mathlib.Order.Lattice

/-!
# The counter of a collection

A collection counts its identifiers on from the greatest number among them. The counter is a word
without a sign and the numbers have one, so the two agree as long as no identifier is `top`, the
greatest of all numbers. This is kept by every document that is staged, whether its identifier is
given or generated, and so along every life of a store.
-/
namespace DocStore.Proofs.Store.Counter

open Batch Life Staging

variable {name : CollectionName} {stored : Collection} {ids : List DocumentId}
variable {lastId lastId' : UInt64} {id : DocumentId}

/-- The greatest number that an identifier can be. -/
def top : Nat := 2 ^ 63 - 1

/-- What an identifier counts as: a text and a negative number count as zero. -/
def number : DocumentId → Nat
  | .int value => value.toNatClampNeg
  | .text _ => 0

/-- The greatest number among identifiers, or zero. -/
def greatest (ids : List DocumentId) : Nat := (ids.map number).foldr max 0

/-- A positive number belongs to one identifier. -/
theorem eq_of_number_eq {other : DocumentId} (hpos : 0 < number id)
    (h : number id = number other) : id = other := by
  cases id with
  | text _ => cases hpos
  | int value =>
    cases other with
    | text _ =>
      rw [h] at hpos
      cases hpos
    | int value' =>
      have hnonneg : ∀ value : Int64, 0 < value.toNatClampNeg → 0 ≤ value := fun value hvalue =>
        Int64.le_of_lt ((Int64.toNatClampNeg_pos_iff value).1 hvalue)
      have hnumbers : value.toNatClampNeg = value'.toNatClampNeg := h
      have hvalue := Int64.ofNat_toNatClampNeg value (hnonneg value hpos)
      have hvalue' := Int64.ofNat_toNatClampNeg value' (hnonneg value' (hnumbers ▸ hpos))
      rw [← hvalue, hnumbers, hvalue']

theorem number_le_greatest (h : id ∈ ids) : number id ≤ greatest ids := by
  induction ids with
  | nil => cases h
  | cons first rest ih =>
    rcases List.mem_cons.1 h with rfl | hrest
    · exact Nat.le_max_left _ _
    · exact Nat.le_trans (ih hrest) (Nat.le_max_right _ _)

theorem greatest_concat (ids : List DocumentId) (id : DocumentId) :
    greatest (ids ++ [id]) = max (greatest ids) (number id) := by
  induction ids with
  | nil => exact Nat.max_comm _ _
  | cons first rest ih =>
    have hcons : ∀ ids, greatest (first :: ids) = max (number first) (greatest ids) := fun _ => rfl
    rw [List.cons_append, hcons, hcons, ih, Nat.max_assoc]

theorem number_le_top (id : DocumentId) : number id ≤ top := by
  cases id with
  | text _ => exact Nat.zero_le _
  | int value =>
    have hlt := Int64.toInt_lt value
    have hnumber : number (.int value) = value.toInt.toNat := rfl
    unfold top
    omega

theorem greatest_le {bound : Nat} (h : ∀ id ∈ ids, number id ≤ bound) : greatest ids ≤ bound := by
  induction ids with
  | nil => exact Nat.zero_le _
  | cons first rest ih =>
    rw [List.forall_mem_cons] at h
    exact Nat.max_le.2 ⟨h.1, ih h.2⟩

theorem greatest_le_top (ids : List DocumentId) : greatest ids ≤ top :=
  greatest_le fun id _ => number_le_top id

/-! ## Words and numbers -/

theorem toInt_toInt64 {word : UInt64} (h : word.toNat ≤ top) :
    word.toInt64.toInt = word.toNat := by
  have hlt : word.toNat < 2 ^ 63 := Nat.lt_of_le_pred (by decide) h
  calc word.toInt64.toInt = (UInt64.ofNat word.toNat).toInt64.toInt := by rw [UInt64.ofNat_toNat]
    _ = (Int64.ofNat word.toNat).toInt := by rw [UInt64.toInt64_ofNat']
    _ = word.toNat := Int64.toInt_ofNat_of_lt hlt

/-- From `top` on words are read as negative numbers. -/
theorem toInt_toInt64_neg {word : UInt64} (h : top < word.toNat) : word.toInt64.toInt < 0 := by
  have htop : 2 ^ 63 ≤ word.toNat := h
  rw [← Int64.toInt_toBitVec, UInt64.toBitVec_toInt64, BitVec.toInt_eq_toNat_cond]
  have hlt := word.toNat_lt
  have heq : word.toBitVec.toNat = word.toNat := rfl
  rw [heq, if_neg (by omega)]
  omega

/-- The next identifier is one more, unless the counter is at `top` or beyond. -/
theorem number_after (last : UInt64) :
    number (.after last) = if last.toNat < top then last.toNat + 1 else 0 := by
  have hsucc : (last + 1).toNat = (last.toNat + 1) % 2 ^ 64 := UInt64.toNat_add last 1
  have hlt := last.toNat_lt
  have hnumber : number (.after last) = (last + 1).toInt64.toInt.toNat := rfl
  rw [hnumber]
  by_cases htop : last.toNat < top
  · have hle : (last + 1).toNat ≤ top := by
      unfold top at htop ⊢
      omega
    rw [if_pos htop, toInt_toInt64 hle, Int.toNat_natCast, hsucc]
    unfold top at htop
    omega
  · rw [if_neg htop, Int.toNat_eq_zero]
    by_cases hend : (last + 1).toNat = 0
    · rw [toInt_toInt64 (by omega), hend]
      rfl
    · apply Int.le_of_lt
      apply toInt_toInt64_neg
      unfold top at htop ⊢
      omega

theorem toNat_add_one (h : lastId.toNat < top) : (lastId + 1).toNat = lastId.toNat + 1 := by
  have hsucc : (lastId + 1).toNat = (lastId.toNat + 1) % 2 ^ 64 := UInt64.toNat_add lastId 1
  unfold top at h
  omega

theorem toNat_raised (h : lastId.toNat ≤ top) (id : DocumentId) :
    (Staged.raised lastId id).toNat = max lastId.toNat (number id) := by
  cases id with
  | text _ => exact (Nat.max_eq_left (Nat.zero_le _)).symm
  | int value =>
    have hlast : lastId.toInt64.toInt = lastId.toNat := toInt_toInt64 h
    have hnumber : number (.int value) = value.toInt.toNat := rfl
    rw [Staged.raised, hnumber]
    by_cases hless : lastId.toInt64 < value
    · have hlt := Int64.lt_iff_toInt_lt.1 hless
      have hnonneg : 0 ≤ value := Int64.le_iff_toInt_le.2 (by rw [Int64.toInt_zero]; omega)
      rw [if_pos hless, Int64.toNat_toUInt64_of_le hnonneg, Int64.toNatClampNeg]
      omega
    · have hle := Int64.le_iff_toInt_le.1 (Int64.not_lt.1 hless)
      rw [if_neg hless]
      omega

/-! ## The counter along a life -/

/-- The counter is the greatest number among the identifiers. -/
def Exact (ids : List DocumentId) (lastId : UInt64) : Prop := lastId.toNat = greatest ids

theorem Exact.le_top (h : Exact ids lastId) : lastId.toNat ≤ top := by
  rw [show lastId.toNat = greatest ids from h]
  exact greatest_le_top ids

theorem Exact.after (h : Exact ids lastId) (htop : greatest ids < top) :
    Exact (ids ++ [.after lastId]) (lastId + 1) := by
  have hlast : lastId.toNat = greatest ids := h
  have hnumber := number_after lastId
  rw [if_pos (by omega)] at hnumber
  rw [Exact, greatest_concat, toNat_add_one (by omega)]
  omega

theorem Exact.raised (h : Exact ids lastId) (id : DocumentId) :
    Exact (ids ++ [id]) (Staged.raised lastId id) := by
  rw [Exact, greatest_concat, toNat_raised h.le_top, show lastId.toNat = greatest ids from h]

/-- As long as no identifier is `top`, the counter is the greatest number among the identifiers. -/
def Counted (ids : List DocumentId) (lastId : UInt64) : Prop :=
  greatest ids < top → lastId.toNat = greatest ids

theorem Counted.after (h : Counted ids lastId) : Counted (ids ++ [.after lastId]) (lastId + 1) := by
  intro htop
  rw [greatest_concat] at htop
  have hbelow : greatest ids < top := by omega
  exact Exact.after (h hbelow) hbelow

theorem Counted.raised (h : Counted ids lastId) (id : DocumentId) :
    Counted (ids ++ [id]) (Staged.raised lastId id) := by
  intro htop
  rw [greatest_concat] at htop
  exact Exact.raised (h (by omega)) id

theorem Counted.add {staged staged' : Staged} {document : Json}
    (hadd : Staged.add name stored staged document = .ok staged')
    (h : Counted (stored.ids ++ staged.ids) staged.lastId) :
    Counted (stored.ids ++ staged'.ids) staged'.lastId := by
  obtain ⟨fields, fields', id, lastId', -, hid, -, -, rfl⟩ := add_cases hadd
  rw [← List.append_assoc]
  rcases identify_cases hid with ⟨-, rfl, rfl, -⟩ | ⟨-, rfl, -⟩
  · exact h.after
  · exact h.raised id

theorem Counted.foldlM_add {batch : List Json} {staged staged' : Staged}
    (hstage : batch.foldlM (Staged.add name stored) staged = .ok staged')
    (h : Counted (stored.ids ++ staged.ids) staged.lastId) :
    Counted (stored.ids ++ staged'.ids) staged'.lastId := by
  induction batch generalizing staged with
  | nil =>
    cases hstage
    exact h
  | cons document rest ih =>
    rw [List.foldlM_cons] at hstage
    obtain ⟨middle, hadd, hrest⟩ := bind_eq_ok hstage
    exact ih hrest (h.add hadd)

theorem counted_of_reachable {store : Store} (h : Reachable store) {session : Session}
    (hsession : store.session = some session) (name : CollectionName) :
    Counted (held session name).ids (held session name).lastId := by
  refine h.collection_property (Q := fun stored => Counted stored.ids stored.lastId) ?_ ?_
    hsession name
  · intro _
    rfl
  · intro stored name batch staged hstage hcounted
    exact Counted.foldlM_add hstage (by simpa using hcounted)

end DocStore.Proofs.Store.Counter
