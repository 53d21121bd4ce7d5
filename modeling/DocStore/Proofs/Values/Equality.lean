import DocStore.Json.Equality
import DocStore.Proofs.Values.Objects
import Mathlib.Data.List.Perm.Subperm

/-!
# Equality of values is reflexive and symmetric

What makes two arrays equal, and two objects. Objects are compared by a walk along the fields on the
left, with the numbers of fields. Since no name comes twice, as many fields on the right leave no
room for a name that the left one has not, so the walk could as well be along the right.
-/
namespace DocStore.Proofs.Values.Equality

open DocStore.Json (equal equalItems fieldsWithin)
open Objects (Ordered)

variable {a b : Json} {items others : List Json} {fields within : List (String × Json)}

theorem equalItems_iff : equalItems items others = true ↔
    items.length = others.length ∧
      ∀ (index : Nat) (x y : Json), items[index]? = some x → others[index]? = some y →
        equal x y = true := by
  induction items generalizing others with
  | nil => cases others <;> simp [equalItems]
  | cons item rest ih =>
    cases others with
    | nil => simp [equalItems]
    | cons other more =>
      rw [equalItems, Bool.and_eq_true, ih, List.length_cons, List.length_cons, Nat.succ_inj]
      constructor
      · rintro ⟨hfirst, hlength, hrest⟩
        refine ⟨hlength, fun index x y hx hy => ?_⟩
        cases index with
        | zero =>
          obtain rfl := Option.some.inj hx
          obtain rfl := Option.some.inj hy
          exact hfirst
        | succ index => exact hrest index x y hx hy
      · rintro ⟨hlength, hall⟩
        exact ⟨hall 0 item other rfl rfl, hlength, fun index => hall (index + 1)⟩

theorem equal_arr_iff : equal (.arr items) (.arr others) = true ↔
    items.length = others.length ∧
      ∀ (index : Nat) (x y : Json), items[index]? = some x → others[index]? = some y →
        equal x y = true := by
  rw [equal, equalItems_iff]

theorem fieldsWithin_iff : fieldsWithin fields within = true ↔
    ∀ field ∈ fields, ∃ y, Fields.get? field.1 within = some y ∧ equal field.2 y = true := by
  induction fields with
  | nil => simp [fieldsWithin]
  | cons field rest ih =>
    rw [fieldsWithin, Bool.and_eq_true, ih, List.forall_mem_cons]
    cases Fields.get? field.1 within <;> simp

theorem equal_obj_iff : equal (.obj fields) (.obj within) = true ↔
    fields.length = within.length ∧
      ∀ field ∈ fields, ∃ y, Fields.get? field.1 within = some y ∧ equal field.2 y = true := by
  rw [equal, Bool.and_eq_true, beq_iff_eq, fieldsWithin_iff]

/-! ## Numbers -/

theorem number_equal_self (n : Number) : n.equal n = true := by
  cases n with
  | int n => exact beq_self_eq_true n.value
  | float x => exact x.equal_refl

theorem number_equal_comm (m n : Number) : m.equal n = n.equal m := by
  cases m with
  | int m =>
    cases n with
    | int n => exact BEq.comm
    | float y => exact Binary64.equal_comm _ _
  | float x => cases n <;> exact Binary64.equal_comm _ _

/-! ## Whole values -/

theorem equal_self_of_ordered (h : Ordered a) : equal a a = true := by
  induction h with
  | null => rfl
  | bool b => exact beq_self_eq_true b
  | num n => exact number_equal_self n
  | str s => exact beq_self_eq_true s
  | arr _ ih =>
    refine equal_arr_iff.2 ⟨rfl, fun index x y hx hy => ?_⟩
    obtain rfl := Option.some.inj (hx.symm.trans hy)
    exact ih x (List.mem_of_getElem? hx)
  | obj hsorted _ ih =>
    refine equal_obj_iff.2 ⟨rfl, fun field hfield => ⟨field.2, ?_, ih field hfield⟩⟩
    exact (Fields.mem_iff_get? hsorted.nodup).1 hfield

/-- If all names of the one object are in the other one, and there are no more of them there, the
names are the same. -/
theorem names_perm (hfields : Fields.Sorted fields) (hlength : fields.length = within.length)
    (hnames : ∀ field ∈ fields, ∃ y, Fields.get? field.1 within = some y) :
    (fields.map (·.1)).Perm (within.map (·.1)) := by
  have hsubset : fields.map (·.1) ⊆ within.map (·.1) := by
    intro name hname
    obtain ⟨field, hfield, rfl⟩ := List.mem_map.1 hname
    obtain ⟨y, hy⟩ := hnames field hfield
    exact List.mem_map.2 ⟨_, Fields.mem_of_get? hy, rfl⟩
  refine (hfields.nodup.subperm hsubset).perm_of_length_le ?_
  simp [hlength]

/-- Whichever object is walked along, as long as the values in it can be compared either way. -/
theorem equal_obj_symm (hfields : Fields.Sorted fields) (hwithin : Fields.Sorted within)
    (hcomm : ∀ field ∈ fields, ∀ other ∈ within, equal field.2 other.2 = equal other.2 field.2)
    (h : equal (.obj fields) (.obj within) = true) : equal (.obj within) (.obj fields) = true := by
  obtain ⟨hlength, hfound⟩ := equal_obj_iff.1 h
  have hperm := names_perm hfields hlength fun field hfield =>
    (hfound field hfield).imp fun _ hy => hy.1
  refine equal_obj_iff.2 ⟨hlength.symm, fun other hother => ?_⟩
  obtain ⟨field, hfield, hname⟩ :=
    List.mem_map.1 (hperm.mem_iff.2 (List.mem_map_of_mem hother))
  obtain ⟨y, hy, hequal⟩ := hfound field hfield
  -- What stands under the name on the right is the field that was chosen there.
  have hvalue : y = other.2 := by
    rw [hname, (Fields.mem_iff_get? hwithin.nodup).1 hother] at hy
    exact (Option.some.inj hy).symm
  refine ⟨field.2, ?_, ?_⟩
  · rw [← hname]
    exact (Fields.mem_iff_get? hfields.nodup).1 hfield
  · rw [← hcomm field hfield other hother, ← hvalue]
    exact hequal

theorem equal_arr_symm (hcomm : ∀ x ∈ items, ∀ y ∈ others, equal x y = equal y x)
    (h : equal (.arr items) (.arr others) = true) : equal (.arr others) (.arr items) = true := by
  obtain ⟨hlength, hitems⟩ := equal_arr_iff.1 h
  refine equal_arr_iff.2 ⟨hlength.symm, fun index y x hy hx => ?_⟩
  rw [← hcomm x (List.mem_of_getElem? hx) y (List.mem_of_getElem? hy)]
  exact hitems index x y hx hy

theorem equal_comm_of_ordered (ha : Ordered a) (hb : Ordered b) : equal a b = equal b a := by
  induction ha generalizing b with
  | null => cases b <;> rfl
  | bool x =>
    cases b with
    | bool y => exact BEq.comm
    | null | num _ | str _ | arr _ | obj _ => rfl
  | num m =>
    cases b with
    | num n => exact number_equal_comm m n
    | null | bool _ | str _ | arr _ | obj _ => rfl
  | str s =>
    cases b with
    | str t => exact BEq.comm
    | null | bool _ | num _ | arr _ | obj _ => rfl
  | @arr items _ ih =>
    cases b with
    | arr others =>
      have hcomm : ∀ x ∈ items, ∀ y ∈ others, equal x y = equal y x :=
        fun x hx y hy => ih x hx (hb.item y hy)
      rw [Bool.eq_iff_iff]
      exact ⟨equal_arr_symm hcomm, equal_arr_symm fun y hy x hx => (hcomm x hx y hy).symm⟩
    | null | bool _ | num _ | str _ | obj _ => rfl
  | @obj fields hsorted _ ih =>
    cases b with
    | obj within =>
      have hcomm : ∀ field ∈ fields, ∀ other ∈ within,
          equal field.2 other.2 = equal other.2 field.2 :=
        fun field hfield other hother => ih field hfield (hb.field other hother)
      rw [Bool.eq_iff_iff]
      exact ⟨equal_obj_symm hsorted hb.sorted hcomm, equal_obj_symm hb.sorted hsorted
        fun other hother field hfield => (hcomm field hfield other hother).symm⟩
    | null | bool _ | num _ | str _ | arr _ => rfl

/-- Every value equals itself, and whether two values are equal does not depend on which of them
comes first, however deep arrays and objects are nested in them and whichever forms their numbers
have. -/
theorem equal_reflexive_symmetric (ha : Ordered a) (hb : Ordered b) :
    a.equal a = true ∧ a.equal b = b.equal a :=
  ⟨equal_self_of_ordered ha, equal_comm_of_ordered ha hb⟩

/-! ## Whole numbers and doubles in one place -/

def whole (n : Int64) : Json := .num (.int (.ofInt64 n))

def double (n : Int) : Json := .num (.float (.ofInt n))

/-- A rectangle on the third floor, and the same one with other forms of its numbers. -/
def hall : Json := .obj [("floor", whole 3), ("sides", .arr [whole 1, double 2])]

def sameHall : Json := .obj [("floor", double 3), ("sides", .arr [double 1, whole 2])]

theorem halls_equal_both_ways :
    Ordered hall ∧ Ordered sameHall ∧ hall.equal hall = true ∧
      hall.equal sameHall = sameHall.equal hall ∧ sameHall.equal hall = true := by
  have hnumbers : ∀ m n p : Number,
      Ordered (.obj [("floor", .num m), ("sides", .arr [.num n, .num p])]) := by
    intro m n p
    have hnames : "floor" < "sides" := by decide
    refine .obj (List.pairwise_pair.2 hnames) ?_
    simp only [List.forall_mem_cons]
    refine ⟨.num m, .arr ?_, List.forall_mem_nil _⟩
    simp only [List.forall_mem_cons]
    exact ⟨.num n, .num p, List.forall_mem_nil _⟩
  have hhall : Ordered hall := hnumbers _ _ _
  have hother : Ordered sameHall := hnumbers _ _ _
  obtain ⟨hself, hcomm⟩ := equal_reflexive_symmetric hhall hother
  exact ⟨hhall, hother, hself, hcomm, by decide +kernel⟩

end DocStore.Proofs.Values.Equality
