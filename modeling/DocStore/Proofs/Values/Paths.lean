import DocStore.Json.Path
import DocStore.Proofs.Values.Objects

/-!
# Values at the end of a path

A path leads from a document to a value, one segment after the other. Whatever is found at a path is
where the path leads to. Not all that a path leads to is found, though: a path without a dot is taken
for the name of a field, so the items of a document that is an array itself are not found under their
numbers. These are the only values that are missed.
-/
namespace DocStore.Proofs.Values.Paths

open DocStore.Json (step? walk?)
open Objects (Ordered)
open Text (IsCount Separated)

/-- What a segment selects: a field by its name, or an item by its number. -/
inductive Selects : String → Json → Json → Prop
  | field {name : String} {fields : List (String × Json)} {value : Json} :
      Fields.get? name fields = some value → Selects name (.obj fields) value
  | item {segment : String} {index : Nat} {items : List Json} {value : Json} :
      IsCount segment index → items[index]? = some value → Selects segment (.arr items) value

/-- The segments, one after the other, lead from the first value to the last. -/
inductive Leads : List String → Json → Json → Prop
  | here (value : Json) : Leads [] value value
  | further {segment : String} {rest : List String} {value inner result : Json} :
      Selects segment value inner → Leads rest inner result → Leads (segment :: rest) value result

/-- The document is an array, and the path as a whole is the number of one of its items. -/
def Overlooked (doc : Json) (path : String) : Prop :=
  ∃ items index, doc = .arr items ∧ IsCount path index ∧ index < items.length

variable {doc value inner result : Json} {segment path : String} {segments : List String}

/-! ## The walk along the segments -/

theorem step?_eq_some_iff : value.step? segment = some inner ↔ Selects segment value inner := by
  constructor
  · intro h
    cases value with
    | obj fields => exact .field h
    | arr items =>
      unfold step? at h
      cases hcount : Text.count segment with
      | ok index =>
        simp only [hcount] at h
        exact .item (Text.count_eq_ok_iff.1 hcount) h
      | error _ =>
        simp only [hcount] at h
        cases h
    | null | bool _ | num _ | str _ => cases h
  · intro h
    cases h with
    | field hfield => exact hfield
    | item hcount hitem =>
      unfold step?
      simp only [Text.count_eq_ok_iff.2 hcount]
      exact hitem

theorem walk?_eq_some_iff : walk? segments value = some result ↔ Leads segments value result := by
  induction segments generalizing value with
  | nil =>
    constructor
    · intro h
      obtain rfl := Option.some.inj h
      exact .here value
    · rintro ⟨⟩
      rfl
  | cons segment rest ih =>
    rw [walk?, Option.bind_eq_some_iff]
    constructor
    · rintro ⟨inner, hstep, hwalk⟩
      exact .further (step?_eq_some_iff.1 hstep) (ih.1 hwalk)
    · intro h
      cases h with
      | further hselects hleads => exact ⟨_, step?_eq_some_iff.2 hselects, ih.2 hleads⟩

theorem leads_singleton_iff : Leads [segment] value result ↔ Selects segment value result := by
  constructor
  · intro h
    cases h with
    | further hselects hend =>
      cases hend
      exact hselects
  · exact fun h => .further h (.here result)

/-- Whatever is led to in a value with sorted objects has sorted objects too. -/
theorem Selects.ordered (h : Selects segment value inner) (hvalue : Ordered value) :
    Ordered inner := by
  cases h with
  | field hfield => exact hvalue.field _ (Fields.mem_of_get? hfield)
  | item _ hitem => exact hvalue.item _ (List.mem_of_getElem? hitem)

theorem Leads.ordered (h : Leads segments value result) (hvalue : Ordered value) :
    Ordered result := by
  induction h with
  | here value => exact hvalue
  | further hselects _ ih => exact ih (hselects.ordered hvalue)

/-! ## What is found -/

theorem segments_of_no_dot (hpath : Separated '.' segments path) (hdot : '.' ∉ path.toList) :
    segments = [path] := by
  rw [← Text.split_eq_iff.2 hpath, Text.split, Text.parts_of_not_mem hdot]
  simp

theorem no_dot_of_isCount {index : Nat} (h : IsCount path index) : '.' ∉ path.toList := by
  obtain ⟨digits, hdigits, hwritten⟩ := h
  have hnone : '.' ∉ digits := fun hmem => absurd (hdigits.isDigit '.' hmem) (by decide)
  rcases hwritten with hwritten | hwritten
  · rwa [hwritten]
  · rw [hwritten, List.mem_cons, not_or]
    exact ⟨by decide, hnone⟩

/-- A name is where its only segment leads to, except in an array. -/
theorem field?_eq_some_iff :
    doc.field? path = some value ↔ Selects path doc value ∧ ¬ Overlooked doc path := by
  constructor
  · intro h
    cases doc with
    | obj fields =>
      refine ⟨.field h, ?_⟩
      rintro ⟨items, index, harr, -⟩
      cases harr
    | null | bool _ | num _ | str _ | arr _ => cases h
  · rintro ⟨hselects, hnot⟩
    cases hselects with
    | field hfield => exact hfield
    | item hcount hitem =>
      exact absurd ⟨_, _, rfl, hcount, (List.getElem?_eq_some_iff.1 hitem).1⟩ hnot

theorem get?_eq_some_iff (hpath : Separated '.' segments path) :
    doc.get? path = some value ↔ Leads segments doc value ∧ ¬ Overlooked doc path := by
  unfold Json.get?
  by_cases hdot : '.' ∈ path.toList
  · have hcontains : Text.contains path '.' = true := List.contains_iff_mem.2 hdot
    have hnot : ¬ Overlooked doc path :=
      fun ⟨_, _, _, hcount, _⟩ => no_dot_of_isCount hcount hdot
    rw [if_pos hcontains, Text.split_eq_iff.2 hpath, walk?_eq_some_iff]
    exact (and_iff_left hnot).symm
  · have hcontains : ¬ Text.contains path '.' = true := mt List.contains_iff_mem.1 hdot
    rw [if_neg hcontains, segments_of_no_dot hpath hdot, leads_singleton_iff, field?_eq_some_iff]

theorem leads_of_get? (h : doc.get? path = some value) : Leads (Text.split '.' path) doc value :=
  ((get?_eq_some_iff (Text.split_eq_iff.1 rfl)).1 h).1

theorem ordered_of_get? (h : Ordered doc) (hvalue : doc.get? path = some value) : Ordered value :=
  (leads_of_get? hvalue).ordered h

theorem exists_leads_of_overlooked (hpath : Separated '.' segments path)
    (h : Overlooked doc path) : ∃ value, Leads segments doc value := by
  obtain ⟨items, index, rfl, hcount, hindex⟩ := h
  rw [segments_of_no_dot hpath (no_dot_of_isCount hcount)]
  exact ⟨items[index], leads_singleton_iff.2 (.item hcount (List.getElem?_eq_getElem hindex))⟩

/-- What is found at a path is where its segments lead to. What they lead to is found as well, except
where the document is an array and the whole path is the number of one of its items. -/
theorem found_iff_led_to (hpath : Separated '.' segments path) :
    (∀ value, doc.get? path = some value → Leads segments doc value) ∧
      ((∀ value, doc.get? path = some value ↔ Leads segments doc value) ↔
        ¬ Overlooked doc path) := by
  refine ⟨fun value hfound => ((get?_eq_some_iff hpath).1 hfound).1, ?_, ?_⟩
  · intro hall hoverlooked
    obtain ⟨value, hleads⟩ := exists_leads_of_overlooked hpath hoverlooked
    exact ((get?_eq_some_iff hpath).1 ((hall value).2 hleads)).2 hoverlooked
  · exact fun hnot value => (get?_eq_some_iff hpath).trans (and_iff_left hnot)

def rooms : Json := .arr [.str "blue", .str "red"]

def house : Json := .obj [("floors", .arr [.arr [], rooms])]

theorem red_room_found :
    Separated '.' ["floors", "1", "+01"] "floors.1.+01" ∧ ¬ Overlooked house "floors.1.+01" ∧
      Leads ["floors", "1", "+01"] house (.str "red") ∧
      house.get? "floors.1.+01" = some (.str "red") := by
  have hpath : Separated '.' ["floors", "1", "+01"] "floors.1.+01" :=
    Text.split_eq_iff.1 (by decide)
  have hnot : ¬ Overlooked house "floors.1.+01" := by
    rintro ⟨items, index, harr, -⟩
    cases harr
  have hfloor : IsCount "1" 1 := Text.count_eq_ok_iff.1 (by rfl)
  have hroom : IsCount "+01" 1 := Text.count_eq_ok_iff.1 (by rfl)
  have hleads : Leads ["floors", "1", "+01"] house (.str "red") :=
    .further (.field rfl) (.further (.item hfloor rfl) (.further (.item hroom rfl) (.here _)))
  exact ⟨hpath, hnot, hleads, (((found_iff_led_to hpath).2.2 hnot) _).2 hleads⟩

/-- The second room is found behind a dot, but not if the rooms are the document. -/
theorem second_room_missed :
    Separated '.' ["1"] "1" ∧ Leads ["1"] rooms (.str "red") ∧ rooms.get? "1" = none ∧
      (.arr [rooms] : Json).get? "0.1" = some (.str "red") ∧
      ¬ ∀ value, rooms.get? "1" = some value ↔ Leads ["1"] rooms value := by
  have hroom : IsCount "1" 1 := Text.count_eq_ok_iff.1 (by rfl)
  have hleads : Leads ["1"] rooms (.str "red") := .further (.item hroom rfl) (.here _)
  have hnone : rooms.get? "1" = none := rfl
  refine ⟨Text.split_eq_iff.1 (by decide), hleads, hnone, by rfl, fun hall => ?_⟩
  have hfound := (hall _).2 hleads
  rw [hnone] at hfound
  cases hfound

end DocStore.Proofs.Values.Paths
