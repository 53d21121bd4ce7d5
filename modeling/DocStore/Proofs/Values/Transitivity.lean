import DocStore.Proofs.Values.Doubles
import DocStore.Proofs.Values.Equality

/-!
# Values that equal one value

A whole number is rounded where it is compared with a double, but not where it is compared with
another whole number. So two different whole numbers can both equal one double. `Parted` finds such a
pair in two values. Without one, values that equal the same value equal each other.
-/
namespace DocStore.Proofs.Values.Transitivity

open DocStore.Json (equal)
open Doubles Equality

/-- In one place of the two values there are different whole numbers. -/
inductive Parted : Json → Json → Prop
  | num {m n : Integer} : m ≠ n → Parted (.num (.int m)) (.num (.int n))
  | item {items others : List Json} {x y : Json} {index : Nat} : items[index]? = some x →
      others[index]? = some y → Parted x y → Parted (.arr items) (.arr others)
  | field {fields within : List (String × Json)} {name : String} {x y : Json} :
      (name, x) ∈ fields → Fields.get? name within = some y → Parted x y →
      Parted (.obj fields) (.obj within)

/-- All whole numbers within the value are so small that they are doubles too. -/
inductive Small : Json → Prop
  | null : Small .null
  | bool (b : Bool) : Small (.bool b)
  | int {n : Integer} : n.value.natAbs ≤ 2 ^ 53 → Small (.num (.int n))
  | float (x : Binary64) : Small (.num (.float x))
  | str (s : String) : Small (.str s)
  | arr {items : List Json} : (∀ item ∈ items, Small item) → Small (.arr items)
  | obj {fields : List (String × Json)} : (∀ field ∈ fields, Small field.2) → Small (.obj fields)

variable {a b c : Json}

/-- Induction over a value and all values within it. -/
@[elab_as_elim]
theorem induct {P : Json → Prop} (null : P .null) (bool : ∀ b, P (.bool b))
    (num : ∀ n, P (.num n)) (str : ∀ s, P (.str s))
    (arr : ∀ items, (∀ item ∈ items, P item) → P (.arr items))
    (obj : ∀ fields, (∀ field ∈ fields, P field.2) → P (.obj fields)) (value : Json) : P value := by
  refine Json.rec (motive_2 := fun items => ∀ item ∈ items, P item)
    (motive_3 := fun fields => ∀ field ∈ fields, P field.2) (motive_4 := fun field => P field.2)
    null bool num str arr obj (List.forall_mem_nil _) ?_ (List.forall_mem_nil _) ?_ ?_ value
  · exact fun item rest hitem hrest => List.forall_mem_cons.2 ⟨hitem, hrest⟩
  · exact fun field rest hfield hrest => List.forall_mem_cons.2 ⟨hfield, hrest⟩
  · exact fun name value hvalue => hvalue

/-! ## Numbers -/

variable {m n p : Number}

/-- Numbers that are equal are equal as doubles. -/
theorem toBinary64_equal (h : m.equal n = true) : m.toBinary64.equal n.toBinary64 = true := by
  cases m with
  | int m =>
    cases n with
    | int n =>
      have hvalue : m.value = n.value := eq_of_beq h
      simp only [Number.toBinary64, hvalue]
      exact Binary64.equal_refl _
    | float y => exact h
  | float x => cases n <;> exact h

theorem number_equal_trans (hmn : m.equal n = true) (hnp : n.equal p = true)
    (hnot : ¬ Parted (.num m) (.num p)) : m.equal p = true := by
  have hdoubles := equal_trans (toBinary64_equal hmn) (toBinary64_equal hnp)
  cases m with
  | int m =>
    cases p with
    | int p =>
      have hsame : m = p := not_not.1 fun hne => hnot (.num hne)
      rw [hsame]
      exact beq_self_eq_true p.value
    | float z => exact hdoubles
  | float x => cases p <;> exact hdoubles

/-! ## Whole values -/

theorem item_of_equal {items others : List Json} {index : Nat} {x : Json}
    (h : equal (.arr items) (.arr others) = true) (hx : items[index]? = some x) :
    ∃ y, others[index]? = some y ∧ equal x y = true := by
  obtain ⟨hlength, hitems⟩ := equal_arr_iff.1 h
  have hindex : index < others.length := hlength ▸ (List.getElem?_eq_some_iff.1 hx).1
  have hy : others[index]? = some others[index] := List.getElem?_eq_getElem hindex
  exact ⟨_, hy, hitems index x _ hx hy⟩

theorem field_of_equal {fields within : List (String × Json)} {name : String} {x : Json}
    (h : equal (.obj fields) (.obj within) = true) (hx : (name, x) ∈ fields) :
    ∃ y, Fields.get? name within = some y ∧ equal x y = true :=
  (equal_obj_iff.1 h).2 (name, x) hx

/-- In every place where the first and the last value have whole numbers, these are the same. Then
the value between them is not missed. -/
theorem equal_of_not_parted (hab : equal a b = true) (hbc : equal b c = true)
    (hnot : ¬ Parted a c) : equal a c = true := by
  induction a using induct generalizing b c with
  | null =>
    cases b with
    | null => exact hbc
    | bool _ | num _ | str _ | arr _ | obj _ => cases hab
  | bool x =>
    cases b with
    | bool y =>
      obtain rfl : x = y := eq_of_beq hab
      exact hbc
    | null | num _ | str _ | arr _ | obj _ => cases hab
  | num m =>
    cases b with
    | num n =>
      cases c with
      | num p => exact number_equal_trans hab hbc hnot
      | null | bool _ | str _ | arr _ | obj _ => cases hbc
    | null | bool _ | str _ | arr _ | obj _ => cases hab
  | str s =>
    cases b with
    | str t =>
      obtain rfl : s = t := eq_of_beq hab
      exact hbc
    | null | bool _ | num _ | arr _ | obj _ => cases hab
  | arr items ih =>
    cases b with
    | arr middle =>
      cases c with
      | arr others =>
        have hlength := (equal_arr_iff.1 hab).1.trans (equal_arr_iff.1 hbc).1
        refine equal_arr_iff.2 ⟨hlength, fun index x z hx hz => ?_⟩
        obtain ⟨y, hy, hxy⟩ := item_of_equal hab hx
        have hyz : equal y z = true := (equal_arr_iff.1 hbc).2 index y z hy hz
        exact ih x (List.mem_of_getElem? hx) hxy hyz fun hparted => hnot (.item hx hz hparted)
      | null | bool _ | num _ | str _ | obj _ => cases hbc
    | null | bool _ | num _ | str _ | obj _ => cases hab
  | obj fields ih =>
    cases b with
    | obj middle =>
      cases c with
      | obj within =>
        have hlength := (equal_obj_iff.1 hab).1.trans (equal_obj_iff.1 hbc).1
        refine equal_obj_iff.2 ⟨hlength, fun field hfield => ?_⟩
        obtain ⟨y, hy, hxy⟩ := field_of_equal hab hfield
        obtain ⟨z, hz, hyz⟩ := field_of_equal hbc (Fields.mem_of_get? hy)
        exact ⟨z, hz, ih field hfield hxy hyz fun hparted => hnot (.field hfield hz hparted)⟩
      | null | bool _ | num _ | str _ | arr _ => cases hbc
    | null | bool _ | num _ | str _ | arr _ => cases hab

theorem Parted.not_equal (h : Parted a c) : equal a c = false := by
  rw [Bool.eq_false_iff]
  intro hequal
  induction h with
  | @num m n hne =>
    obtain ⟨value, _, _⟩ := m
    obtain rfl : value = n.value := eq_of_beq hequal
    exact hne rfl
  | item hx hz _ ih => exact ih ((equal_arr_iff.1 hequal).2 _ _ _ hx hz)
  | field hx hz _ ih =>
    obtain ⟨z', hz', hxz⟩ := field_of_equal hequal hx
    obtain rfl := Option.some.inj (hz.symm.trans hz')
    exact ih hxz

/-! ## Small numbers -/

theorem Small.item {items : List Json} (h : Small (.arr items)) : ∀ item ∈ items, Small item := by
  cases h with
  | arr hitems => exact hitems

theorem Small.field {fields : List (String × Json)} (h : Small (.obj fields)) :
    ∀ field ∈ fields, Small field.2 := by
  cases h with
  | obj hfields => exact hfields

/-- Different whole numbers that equal one value are not both small. -/
theorem Parted.not_small (h : Parted a c) (hab : equal a b = true) (hbc : equal b c = true)
    (ha : Small a) (hc : Small c) : False := by
  induction h generalizing b with
  | @num m n hne =>
    cases b with
    | num p =>
      cases ha with
      | int hm =>
        cases hc with
        | int hn =>
          have hvalue := eq_of_equal_ofInt hm hn
            (equal_trans (toBinary64_equal hab) (toBinary64_equal hbc))
          obtain ⟨value, _, _⟩ := m
          obtain rfl : value = n.value := hvalue
          exact hne rfl
    | null | bool _ | str _ | arr _ | obj _ => cases hab
  | item hx hz _ ih =>
    cases b with
    | arr middle =>
      obtain ⟨y, hy, hxy⟩ := item_of_equal hab hx
      have hyz := (equal_arr_iff.1 hbc).2 _ _ _ hy hz
      exact ih hxy hyz (ha.item _ (List.mem_of_getElem? hx)) (hc.item _ (List.mem_of_getElem? hz))
    | null | bool _ | num _ | str _ | obj _ => cases hab
  | field hx hz _ ih =>
    cases b with
    | obj middle =>
      obtain ⟨y, hy, hxy⟩ := field_of_equal hab hx
      obtain ⟨z, hz', hyz⟩ := field_of_equal hbc (Fields.mem_of_get? hy)
      obtain rfl := Option.some.inj (hz.symm.trans hz')
      exact ih hxy hyz (ha.field _ hx) (hc.field _ (Fields.mem_of_get? hz))
    | null | bool _ | num _ | str _ | arr _ => cases hab

/-- Two values that equal a third one equal each other exactly if they do not have different whole
numbers in one place. If all their whole numbers are within `2 ^ 53` they always do. -/
theorem equal_through_iff (hab : a.equal b = true) (hbc : b.equal c = true) :
    (a.equal c = true ↔ ¬ Parted a c) ∧ (Small a → Small c → a.equal c = true) := by
  have hnot : ¬ Parted a c → a.equal c = true := equal_of_not_parted hab hbc
  refine ⟨⟨fun hequal hparted => ?_, hnot⟩, fun ha hc => hnot fun hparted => ?_⟩
  · rw [hparted.not_equal] at hequal
    cases hequal
  · exact hparted.not_small hab hbc ha hc

/-- The hall with whole numbers only. -/
def wholeHall : Json := .obj [("floor", whole 3), ("sides", .arr [whole 1, whole 2])]

theorem halls_equal_through :
    hall.equal sameHall = true ∧ sameHall.equal wholeHall = true ∧ hall.equal wholeHall = true := by
  have hfirst : hall.equal sameHall = true := by decide +kernel
  have hsecond : sameHall.equal wholeHall = true := by decide +kernel
  refine ⟨hfirst, hsecond, (equal_through_iff hfirst hsecond).2 ?_ ?_⟩
  · refine .obj ?_
    simp only [List.forall_mem_cons]
    refine ⟨.int (by decide), .arr ?_, List.forall_mem_nil _⟩
    simp only [List.forall_mem_cons]
    exact ⟨.int (by decide), .float _, List.forall_mem_nil _⟩
  · refine .obj ?_
    simp only [List.forall_mem_cons]
    refine ⟨.int (by decide), .arr ?_, List.forall_mem_nil _⟩
    simp only [List.forall_mem_cons]
    exact ⟨.int (by decide), .int (by decide), List.forall_mem_nil _⟩

/-- The double `2 ^ 53` equals the whole number `2 ^ 53` and the next one, which it is rounded from.
-/
theorem neighbours_equal_one_double :
    (whole 9007199254740992).equal (double 9007199254740992) = true ∧
      (double 9007199254740992).equal (whole 9007199254740993) = true ∧
      (whole 9007199254740992).equal (whole 9007199254740993) = false := by
  decide +kernel

end DocStore.Proofs.Values.Transitivity
