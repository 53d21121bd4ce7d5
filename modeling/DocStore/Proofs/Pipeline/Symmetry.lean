import DocStore.Pipeline.Basic
import DocStore.Proofs.Values.Equality
import DocStore.Proofs.Values.Paths

/-!
# Joins in both directions

A join reads its two values in different ways: it goes through the items of an array on the local
side, and asks whether one is contained on the foreign side. Where no array is an item of an array
both come to the same. Each value offers itself or, if it is an array, its items, and two documents
are joined exactly if their values offer equal ones. So it does not matter which document is the
local one.
-/
namespace DocStore.Proofs.Pipeline.Symmetry

open DocStore.Json (equal)
open Values.Objects (Ordered)
open Values.Paths (ordered_of_get?)

/-- What a value is joined by: an array by its items, any other value by itself. -/
def offered : Json → List Json
  | .arr items => items
  | value => [value]

/-- The two values offer equal ones. -/
def Meet (value other : Json) : Prop :=
  ∃ item ∈ offered value, ∃ actual ∈ offered other, equal actual item = true

/-- The value is not null, and not an array with an array among its items. -/
structure Flat (value : Json) : Prop where
  not_null : value ≠ .null
  items_plain : ∀ items, value = .arr items → ∀ item ∈ items, item.isArray = false

variable {document foreign value other item actual : Json} {lookup : Lookup} {documents : List Json}

theorem flat_arr {items : List Json} (h : ∀ item ∈ items, item.isArray = false) :
    Flat (.arr items) where
  not_null := nofun
  items_plain := by
    rintro _ ⟨⟩
    exact h

/-! ## Values that meet -/

theorem plain_of_offered (h : Flat value) (hitem : item ∈ offered value) :
    item.isArray = false := by
  cases value with
  | arr items => exact h.items_plain items rfl item hitem
  | null | bool _ | num _ | str _ | obj _ =>
    obtain rfl := List.mem_singleton.1 hitem
    rfl

theorem ordered_of_offered (h : Ordered value) (hitem : item ∈ offered value) : Ordered item := by
  cases value with
  | arr items => exact h.item item hitem
  | null | bool _ | num _ | str _ | obj _ =>
    obtain rfl := List.mem_singleton.1 hitem
    exact h

theorem Meet.symm (hvalue : Ordered value) (hother : Ordered other) (h : Meet value other) :
    Meet other value := by
  obtain ⟨item, hitem, actual, hactual, hequal⟩ := h
  have hcomm := Values.Equality.equal_comm_of_ordered (ordered_of_offered hvalue hitem)
    (ordered_of_offered hother hactual)
  exact ⟨actual, hactual, item, hitem, hcomm.trans hequal⟩

/-! ## Joined values -/

/-- Anything but an array is looked for among what the stored value offers. -/
theorem matchesValue_iff (hitem : item.isArray = false) :
    other.matchesValue item = true ↔ ∃ actual ∈ offered other, equal actual item = true := by
  cases other with
  | arr items =>
    have hnot : equal (.arr items) item = false := by
      cases item with
      | arr _ => cases hitem
      | null | bool _ | num _ | str _ | obj _ => rfl
    simp [Json.matchesValue, offered, hnot, hitem]
  | null | bool _ | num _ | str _ | obj _ => simp [Json.matchesValue, offered]

theorem joins_iff_offered : lookup.joins value foreign = true ↔
    ∃ other, foreign.get? lookup.foreignField = some other ∧
      ∃ item ∈ offered value, other.matchesValue item = true := by
  cases hother : foreign.get? lookup.foreignField with
  | none => simp [Lookup.joins, hother]
  | some other =>
    cases value with
    | arr items => simp [Lookup.joins, hother, offered]
    | null | bool _ | num _ | str _ | obj _ => simp [Lookup.joins, hother, offered]

theorem joins_iff_meet (hflat : Flat value) : lookup.joins value foreign = true ↔
    ∃ other, foreign.get? lookup.foreignField = some other ∧ Meet value other := by
  rw [joins_iff_offered]
  refine exists_congr fun other => and_congr_right fun _ => exists_congr fun item =>
    and_congr_right fun hitem => ?_
  exact matchesValue_iff (plain_of_offered hflat hitem)

/-! ## Joined documents -/

/-- Both documents have a value at their path, and the two values meet. -/
def MeetAt (document : Json) (path : String) (foreign : Json) (foreignPath : String) : Prop :=
  ∃ value other, document.get? path = some value ∧ foreign.get? foreignPath = some other ∧
    Meet value other

variable {path foreignPath : String}

theorem MeetAt.symm (hdocument : Ordered document) (hforeign : Ordered foreign)
    (h : MeetAt document path foreign foreignPath) : MeetAt foreign foreignPath document path := by
  obtain ⟨value, other, hvalue, hother, hmeet⟩ := h
  exact ⟨other, value, hother, hvalue,
    hmeet.symm (ordered_of_get? hdocument hvalue) (ordered_of_get? hforeign hother)⟩

theorem mem_collect_iff
    (hflat : ∀ value, document.get? lookup.localField = some value → Flat value)
    (hmem : foreign ∈ documents) :
    foreign ∈ lookup.collect document documents ↔
      MeetAt document lookup.localField foreign lookup.foreignField := by
  cases hvalue : document.get? lookup.localField with
  | none => simp [Lookup.collect, MeetAt, hvalue]
  | some value =>
    have hflat : Flat value := hflat value hvalue
    have hcollect : lookup.collect document documents = documents.filter (lookup.joins value) := by
      unfold Lookup.collect
      rw [hvalue]
      cases value with
      | null => exact absurd rfl hflat.not_null
      | bool _ | num _ | str _ | arr _ | obj _ => rfl
    rw [hcollect, List.mem_filter, and_iff_right hmem, joins_iff_meet hflat]
    simp [MeetAt, hvalue]

/-- A document is attached to another one exactly if their values meet, and then the other one is
attached to it where the paths are exchanged. Neither value may be null or have an array within an
array. -/
theorem attached_both_ways {collection collection' : CollectionName} {output output' : String}
    {others : List Json} (hdocument : Ordered document) (hforeign : Ordered foreign)
    (hflat : ∀ value, document.get? path = some value → Flat value)
    (hflat' : ∀ value, foreign.get? foreignPath = some value → Flat value)
    (hmem : foreign ∈ others) (hmem' : document ∈ documents) :
    (foreign ∈ Lookup.collect ⟨collection, path, foreignPath, output⟩ document others ↔
        document ∈ Lookup.collect ⟨collection', foreignPath, path, output'⟩ foreign documents) ∧
      (foreign ∈ Lookup.collect ⟨collection, path, foreignPath, output⟩ document others ↔
        MeetAt document path foreign foreignPath) := by
  have hthere : foreign ∈ Lookup.collect ⟨collection, path, foreignPath, output⟩ document others ↔
      MeetAt document path foreign foreignPath := mem_collect_iff hflat hmem
  have hback :
      document ∈ Lookup.collect ⟨collection', foreignPath, path, output'⟩ foreign documents ↔
        MeetAt foreign foreignPath document path := mem_collect_iff hflat' hmem'
  refine ⟨?_, hthere⟩
  rw [hthere, hback]
  exact ⟨MeetAt.symm hdocument hforeign, MeetAt.symm hforeign hdocument⟩

def rooms : Json := .arr [.str "blue", .num (.int (.ofInt64 1))]

def house : Json := .obj [("home", .obj [("rooms", rooms)])]

def signs : Json := .arr [.num (.float (.ofInt 1)), .str "green"]

def label : Json := .obj [("signs", signs)]

def labels : Lookup := ⟨⟨"labels"⟩, "home.rooms", "signs", "labels"⟩

def houses : Lookup := ⟨⟨"houses"⟩, "signs", "home.rooms", "houses"⟩

/-- The whole number among the rooms equals the double among the signs. -/
theorem house_labelled :
    (Ordered house ∧ Ordered label) ∧
      (∀ value, house.get? "home.rooms" = some value → Flat value) ∧
      (∀ value, label.get? "signs" = some value → Flat value) ∧
      label ∈ labels.collect house [label] ∧ house ∈ houses.collect label [house] := by
  have hsingle : ∀ {name : String} {value : Json}, Ordered value → Ordered (.obj [(name, value)]) :=
    fun hvalue => .obj (List.pairwise_singleton _ _) (List.forall_mem_singleton.2 hvalue)
  have hpair : ∀ {first second : Json}, Ordered first → Ordered second →
      Ordered (.arr [first, second]) := fun hfirst hsecond =>
    .arr (List.forall_mem_cons.2 ⟨hfirst, List.forall_mem_singleton.2 hsecond⟩)
  have hhouse : Ordered house := hsingle (hsingle (hpair (.str _) (.num _)))
  have hlabel : Ordered label := hsingle (hpair (.num _) (.str _))
  have hflat : ∀ value, house.get? "home.rooms" = some value → Flat value := by
    intro value hvalue
    obtain rfl : rooms = value := Option.some.inj hvalue
    exact flat_arr (by decide)
  have hflat' : ∀ value, label.get? "signs" = some value → Flat value := by
    intro value hvalue
    obtain rfl : signs = value := Option.some.inj hvalue
    exact flat_arr (by decide)
  have hthere : label ∈ labels.collect house [label] := by decide +kernel
  have hback : house ∈ houses.collect label [house] :=
    (attached_both_ways hhouse hlabel hflat hflat' (List.mem_singleton_self label)
      (List.mem_singleton_self house)).1.1 hthere
  exact ⟨⟨hhouse, hlabel⟩, hflat, hflat', hthere, hback⟩

/-- Null joins nothing, but an array with a null in it joins null. -/
example :
    Lookup.collect ⟨⟨"labels"⟩, "room", "signs", "labels"⟩ (.obj [("room", .null)])
        [.obj [("signs", .arr [.null])]] = [] ∧
      Lookup.collect ⟨⟨"houses"⟩, "signs", "room", "houses"⟩ (.obj [("signs", .arr [.null])])
        [.obj [("room", .null)]] = [.obj [("room", .null)]] := by
  decide +kernel

/-- An array does not join an array that it is an item of, but that one joins it. -/
example :
    Lookup.collect ⟨⟨"labels"⟩, "rooms", "signs", "labels"⟩ (.obj [("rooms", rooms)])
        [.obj [("signs", .arr [rooms])]] = [] ∧
      Lookup.collect ⟨⟨"houses"⟩, "signs", "rooms", "houses"⟩ (.obj [("signs", .arr [rooms])])
        [.obj [("rooms", rooms)]] = [.obj [("rooms", rooms)]] := by
  decide +kernel

end DocStore.Proofs.Pipeline.Symmetry
