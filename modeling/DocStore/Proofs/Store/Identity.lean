import DocStore.Json.Equality
import DocStore.Proofs.Store.Life
import Mathlib.Data.List.Nodup

/-!
# Identifiers within a collection

A batch is staged only if its identifiers are new, to the collection and among each other. So the
documents of a collection have identifiers that differ, and these are the identifiers it keeps.
Queries compare identifiers by value; on identifiers this is the same as being the same.
-/
namespace DocStore.Proofs.Store.Identity

open Batch Staging Life

theorem equal_toJson_iff (id other : DocumentId) :
    id.toJson.equal other.toJson = true ↔ id = other := by
  cases id with
  | int value =>
    cases other with
    | int value' =>
      simp [DocumentId.toJson, Json.equal, Number.equal, Integer.ofInt64, Int64.toInt_inj]
    | text _ => simp [DocumentId.toJson, Json.equal]
  | text value => cases other <;> simp [DocumentId.toJson, Json.equal]

/-- A text, or a whole number of 64 bits with a sign. -/
def Identifies (value : Json) : Prop :=
  (∃ text, value = .str text) ∨ ∃ number : Int64, value = .num (.int (.ofInt64 number))

theorem toJson_identifies (id : DocumentId) : Identifies id.toJson := by
  cases id with
  | int number => exact .inr ⟨number, rfl⟩
  | text text => exact .inl ⟨text, rfl⟩

/-- What holds of every collection. The identifiers are kept as a list without repetitions. -/
structure Sound (collection : Collection) : Prop where
  identified : ∀ document ∈ collection.documents, document.isObject = true ∧
    ∃ value, document.field? DocumentId.field = some value ∧ Identifies value
  /-- Documents at two places have identifiers that no query takes for equal. -/
  distinct : ∀ (i j : Nat) (document other value value' : Json),
    collection.documents[i]? = some document → collection.documents[j]? = some other →
    document.field? DocumentId.field = some value → other.field? DocumentId.field = some value' →
    value.equal value' = true → i = j
  mem_ids_iff : ∀ id, id ∈ collection.ids ↔
    ∃ document ∈ collection.documents, document.field? DocumentId.field = some id.toJson
  ids_nodup : collection.ids.Nodup
  length_ids : collection.ids.length = collection.documents.length

/-- The collection consists of these documents, each under its identifier. -/
structure Keyed (collection : Collection) (entries : List (DocumentId × Json)) : Prop where
  documents_eq : collection.documents = entries.map (·.2)
  ids_eq : collection.ids = entries.map (·.1)
  isObject : ∀ entry ∈ entries, entry.2.isObject = true
  carries : ∀ entry ∈ entries, entry.2.field? DocumentId.field = some entry.1.toJson
  nodup : collection.ids.Nodup

variable {name : CollectionName} {stored : Collection} {entries : List (DocumentId × Json)}

theorem Keyed.getElem?_ids (h : Keyed stored entries) {i : Nat} {document value : Json}
    (hdocument : stored.documents[i]? = some document)
    (hvalue : document.field? DocumentId.field = some value) :
    ∃ id, stored.ids[i]? = some id ∧ id.toJson = value := by
  rw [h.documents_eq, List.getElem?_map] at hdocument
  obtain ⟨entry, hentry, rfl⟩ := Option.map_eq_some_iff.1 hdocument
  have hcarries := h.carries entry (List.mem_of_getElem? hentry)
  refine ⟨entry.1, ?_, Option.some.inj (hcarries.symm.trans hvalue)⟩
  rw [h.ids_eq, List.getElem?_map, hentry]
  rfl

theorem Keyed.sound (h : Keyed stored entries) : Sound stored where
  identified document hdocument := by
    rw [h.documents_eq] at hdocument
    obtain ⟨entry, hentry, rfl⟩ := List.mem_map.1 hdocument
    exact ⟨h.isObject entry hentry, _, h.carries entry hentry, toJson_identifies entry.1⟩
  distinct i j document other value value' hi hj hvalue hvalue' hequal := by
    obtain ⟨id, hid, rfl⟩ := h.getElem?_ids hi hvalue
    obtain ⟨id', hid', rfl⟩ := h.getElem?_ids hj hvalue'
    obtain rfl := (equal_toJson_iff id id').1 hequal
    have hlt : i < stored.ids.length := (List.getElem?_eq_some_iff.1 hid).1
    exact (List.getElem?_inj hlt h.nodup).1 (hid.trans hid'.symm)
  mem_ids_iff id := by
    constructor
    · intro hid
      rw [h.ids_eq] at hid
      obtain ⟨entry, hentry, rfl⟩ := List.mem_map.1 hid
      refine ⟨entry.2, ?_, h.carries entry hentry⟩
      rw [h.documents_eq]
      exact List.mem_map_of_mem hentry
    · rintro ⟨document, hdocument, hfield⟩
      obtain ⟨i, hi⟩ := List.getElem?_of_mem hdocument
      obtain ⟨id', hid', heq⟩ := h.getElem?_ids hi hfield
      have hequal : id'.toJson.equal id.toJson = true := by
        rw [heq]
        exact (equal_toJson_iff id id).2 rfl
      rw [← (equal_toJson_iff id' id).1 hequal]
      exact List.mem_of_getElem? hid'
  ids_nodup := h.nodup
  length_ids := by rw [h.ids_eq, h.documents_eq, List.length_map, List.length_map]

/-! ## Staging checks both lists of identifiers -/

/-- Whether an identifier is given or generated, it is compared with those stored and staged. -/
theorem add_nodup {staged staged' : Staged} {document : Json}
    (h : Staged.add name stored staged document = .ok staged')
    (hnodup : (stored.ids ++ staged.ids).Nodup) : (stored.ids ++ staged'.ids).Nodup := by
  obtain ⟨fields, fields', id, lastId', -, -, hstored, hstaged, rfl⟩ := add_cases h
  have hfresh : id ∉ stored.ids ++ staged.ids := by
    rw [List.mem_append, not_or]
    exact ⟨hstored, hstaged⟩
  have hids : stored.ids ++ (staged.ids ++ [id]) = (stored.ids ++ staged.ids).concat id := by
    rw [List.concat_eq_append, List.append_assoc]
  rw [hids]
  exact List.Nodup.concat hfresh hnodup

theorem foldlM_add_nodup {batch : List Json} {staged staged' : Staged}
    (h : batch.foldlM (Staged.add name stored) staged = .ok staged')
    (hnodup : (stored.ids ++ staged.ids).Nodup) : (stored.ids ++ staged'.ids).Nodup := by
  induction batch generalizing staged with
  | nil =>
    cases h
    exact hnodup
  | cons document rest ih =>
    rw [List.foldlM_cons] at h
    obtain ⟨middle, hadd, hrest⟩ := bind_eq_ok h
    exact ih hrest (add_nodup hadd hnodup)

theorem Keyed.append {batch : List Json} {staged : Staged} (h : Keyed stored entries)
    (hstage : stored.stage name batch = .ok staged) :
    ∃ more, Keyed (stored.append staged) (entries ++ more) := by
  obtain ⟨more, hall, hdocuments, hids⟩ := stage_entered hstage
  have hnodup : (stored.ids ++ staged.ids).Nodup :=
    foldlM_add_nodup hstage (by simpa using h.nodup)
  refine ⟨more, ?_, ?_, ?_, ?_, hnodup⟩
  · show stored.documents ++ staged.documents = _
    rw [h.documents_eq, hdocuments, List.map_append]
  · show stored.ids ++ staged.ids = _
    rw [h.ids_eq, hids, List.map_append]
  · intro entry hentry
    rcases List.mem_append.1 hentry with hold | hnew
    · exact h.isObject entry hold
    · apply isObject_of_stage hstage
      rw [hdocuments]
      exact List.mem_map_of_mem hnew
  · intro entry hentry
    rcases List.mem_append.1 hentry with hold | hnew
    · exact h.carries entry hold
    · exact field?_of_mem_entries hall entry hnew

theorem keyed_empty : Keyed .empty [] :=
  ⟨rfl, rfl, by simp, by simp, List.nodup_nil⟩

/-! ## Along the life of a store -/

/-- Every collection of the session keeps its documents under identifiers of their own. -/
def Indexed (session : Session) : Prop :=
  ∀ entry ∈ session.collections, ∃ entries, Keyed entry.2 entries

theorem Indexed.held {session : Session} (h : Indexed session) (name : CollectionName) :
    ∃ entries, Keyed (held session name) entries := by
  cases hget : session.collection? name with
  | none =>
    refine ⟨[], ?_⟩
    rw [Batch.held, hget]
    exact keyed_empty
  | some collection =>
    rw [Batch.held, hget]
    exact h (name.text, collection) (Fields.mem_of_get? hget)

theorem Indexed.extended {session : Session} (h : Indexed session) {batch : List Json}
    {staged : Staged} (hstage : (Batch.held session name).stage name batch = .ok staged) :
    Indexed (extended session name staged) := by
  intro entry hentry
  rcases Fields.mem_insert hentry with rfl | hold
  · obtain ⟨entries, hkeyed⟩ := h.held name
    obtain ⟨more, hmore⟩ := hkeyed.append hstage
    exact ⟨entries ++ more, hmore⟩
  · exact h entry hold

theorem indexed_of_reachable {store : Store} (h : Reachable store) {session : Session}
    (hsession : store.session = some session) : Indexed session := by
  refine h.session_property (P := Indexed) ?_ ?_ session hsession
  · intro name label number entry hentry
    cases hentry
  · intro session name batch staged hstage hindexed
    exact hindexed.extended hstage

/-- Whatever was started, stopped, inserted or refused, each document of a collection carries an
identifier that no other one carries, and the collection keeps the identifiers of its documents. -/
theorem collections_sound {store : Store} (h : Reachable store) {session : Session}
    (hsession : store.session = some session) {name : String} {collection : Collection}
    (hmem : (name, collection) ∈ session.collections) : Sound collection := by
  obtain ⟨entries, hkeyed⟩ := indexed_of_reachable h hsession (name, collection) hmem
  exact hkeyed.sound

/-! ## A counter that wraps -/

def guests : CollectionName := ⟨"guests"⟩

def guest (id : DocumentId) : Json := .obj [("_id", id.toJson)]

/-- The greatest number is given, so the next one is generated below zero. A batch that repeats a
text is refused in between. -/
def guestStore : Store :=
  let opened := (Store.new.start "db" "first").state
  let given := (opened.insertMany guests
    [guest (.int Int64.maxValue), .obj [], guest (.text "x")]).state
  let refused := (given.insertMany guests [.obj [], guest (.text "x")]).state
  (refused.insertMany guests [.obj [("_id", .null)]]).state

def guestBook : Collection where
  documents := [guest (.int Int64.maxValue), guest (.int Int64.minValue), guest (.text "x"),
    guest (.int (Int64.minValue + 1))]
  ids := [.int Int64.maxValue, .int Int64.minValue, .text "x", .int (Int64.minValue + 1)]
  lastId := 0x8000000000000001

theorem guestBook_sound :
    Reachable guestStore ∧ guestStore.session = some ⟨"db", "first", 1, [("guests", guestBook)]⟩ ∧
      Sound guestBook := by
  have hreachable : Reachable guestStore :=
    .insertMany _ _ (.insertMany _ _ (.insertMany _ _ (.start _ _ (.fresh _ (by decide)))))
  have hsession : guestStore.session = some ⟨"db", "first", 1, [("guests", guestBook)]⟩ := by rfl
  exact ⟨hreachable, hsession, collections_sound hreachable hsession List.mem_cons_self⟩

end DocStore.Proofs.Store.Identity
