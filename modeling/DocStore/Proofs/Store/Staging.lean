import DocStore.Store.Insert
import Mathlib.Data.List.Forall2

/-!
# What staging a batch does to its documents

`Entered given id stored` relates a document of a batch to the identifier and the form under which
it is kept. One accepted document is one step; a staged batch is a run of such steps.
-/
namespace DocStore.Proofs.Store.Staging

variable {name : CollectionName} {stored : Collection} {lastId lastId' : UInt64}
variable {fields fields' : List (String × Json)} {id : DocumentId} {document : Json}

/-- The identifier of a document is to be filled in: it is missing or null. -/
def Anonymous (document : Json) : Prop :=
  document.field? DocumentId.field = none ∨ document.field? DocumentId.field = some .null

/-- An object is kept under `id` as it is if it carries `id`, and with `id` put into it if it
carries no identifier. -/
inductive Entered : Json → DocumentId → Json → Prop
  | carried {fields : List (String × Json)} {id : DocumentId} :
      (Json.obj fields).field? DocumentId.field = some id.toJson →
      Entered (.obj fields) id (.obj fields)
  | filled {fields : List (String × Json)} {id : DocumentId} :
      Anonymous (.obj fields) →
      Entered (.obj fields) id (.obj (Fields.insert DocumentId.field id.toJson fields))

theorem Entered.field?_eq {given stored : Json} (h : Entered given id stored) :
    stored.field? DocumentId.field = some id.toJson := by
  cases h with
  | carried h => exact h
  | filled _ => exact Fields.get?_insert_self _ _ _

theorem Entered.isObject {given kept : Json} (h : Entered given id kept) :
    kept.isObject = true := by
  cases h <;> rfl

theorem field?_of_mem_entries {batch : List Json} {entries : List (DocumentId × Json)}
    (h : List.Forall₂ (fun given entry => Entered given entry.1 entry.2) batch entries) :
    ∀ entry ∈ entries, entry.2.field? DocumentId.field = some entry.1.toJson := by
  induction h with
  | nil => simp
  | cons hfirst _ ih =>
    intro entry hentry
    rcases List.mem_cons.1 hentry with rfl | hrest
    · exact hfirst.field?_eq
    · exact ih entry hrest

/-- The two ways to an identifier, each with the number that the next one goes on from. -/
theorem identify_cases
    (h : Staged.identify name lastId fields = .ok (fields', id, lastId')) :
    (Anonymous (.obj fields) ∧ id = .after lastId ∧ lastId' = lastId + 1 ∧
      fields' = Fields.insert DocumentId.field id.toJson fields) ∨
    (Fields.get? DocumentId.field fields = some id.toJson ∧ lastId' = Staged.raised lastId id ∧
      fields' = fields) := by
  unfold Staged.identify at h
  split at h
  · rename_i hnone
    cases h
    exact .inl ⟨.inl hnone, rfl, rfl, rfl⟩
  · rename_i hnull
    cases h
    exact .inl ⟨.inr hnull, rfl, rfl, rfl⟩
  · rename_i value _ hvalue
    split at h
    · rename_i known hknown
      cases h
      rw [DocumentId.toJson_of_ofJson? hknown]
      exact .inr ⟨hvalue, rfl, rfl⟩
    · cases h

/-- All that one accepted document changes, and what was checked before. -/
theorem add_cases {staged staged' : Staged}
    (h : Staged.add name stored staged document = .ok staged') :
    ∃ fields fields' id lastId', document = .obj fields ∧
      Staged.identify name staged.lastId fields = .ok (fields', id, lastId') ∧
      id ∉ stored.ids ∧ id ∉ staged.ids ∧
      staged' = ⟨staged.documents ++ [.obj fields'], staged.ids ++ [id], lastId'⟩ := by
  cases document with
  | obj fields =>
    simp only [Staged.add] at h
    obtain ⟨⟨fields', id, lastId'⟩, hid, h⟩ := bind_eq_ok h
    simp only at h
    split at h
    · cases h
    · rename_i hfresh
      obtain ⟨hstored, hstaged⟩ := not_or.1 hfresh
      cases h
      exact ⟨fields, fields', id, lastId', rfl, hid, hstored, hstaged, rfl⟩
  | null | bool _ | num _ | str _ | arr _ => cases h

theorem add_entered {staged staged' : Staged}
    (h : Staged.add name stored staged document = .ok staged') :
    ∃ id kept, Entered document id kept ∧
      staged'.documents = staged.documents ++ [kept] ∧ staged'.ids = staged.ids ++ [id] := by
  obtain ⟨fields, fields', id, lastId', rfl, hid, -, -, rfl⟩ := add_cases h
  rcases identify_cases hid with ⟨ha, -, -, rfl⟩ | ⟨hc, -, rfl⟩
  · exact ⟨id, _, .filled ha, rfl, rfl⟩
  · exact ⟨id, _, .carried hc, rfl, rfl⟩

/-- A staged batch holds its documents one by one, behind those that were staged before. -/
theorem foldlM_add_entered {batch : List Json} {staged staged' : Staged}
    (h : batch.foldlM (Staged.add name stored) staged = .ok staged') :
    ∃ entries : List (DocumentId × Json),
      List.Forall₂ (fun given entry => Entered given entry.1 entry.2) batch entries ∧
      staged'.documents = staged.documents ++ entries.map (·.2) ∧
      staged'.ids = staged.ids ++ entries.map (·.1) := by
  induction batch generalizing staged with
  | nil =>
    cases h
    exact ⟨[], .nil, by simp, by simp⟩
  | cons document rest ih =>
    rw [List.foldlM_cons] at h
    obtain ⟨middle, hadd, hrest⟩ := bind_eq_ok h
    obtain ⟨id, kept, hentered, hdocuments, hids⟩ := add_entered hadd
    obtain ⟨entries, hall, hdocuments', hids'⟩ := ih hrest
    refine ⟨(id, kept) :: entries, .cons hentered hall, ?_, ?_⟩
    · rw [hdocuments', hdocuments, List.append_assoc]
      rfl
    · rw [hids', hids, List.append_assoc]
      rfl

theorem stage_entered {batch : List Json} {staged : Staged}
    (h : stored.stage name batch = .ok staged) :
    ∃ entries : List (DocumentId × Json),
      List.Forall₂ (fun given entry => Entered given entry.1 entry.2) batch entries ∧
      staged.documents = entries.map (·.2) ∧ staged.ids = entries.map (·.1) := by
  obtain ⟨entries, hall, hdocuments, hids⟩ := foldlM_add_entered h
  exact ⟨entries, hall, hdocuments, hids⟩

theorem isObject_of_stage {batch : List Json}
    {staged : Staged} (h : stored.stage name batch = .ok staged) :
    ∀ document ∈ staged.documents, document.isObject = true := by
  obtain ⟨entries, hall, hdocuments, -⟩ := stage_entered h
  rw [hdocuments]
  clear hdocuments h
  induction hall with
  | nil => simp
  | cons hfirst _ ih =>
    intro document hdocument
    rcases List.mem_cons.1 hdocument with rfl | hrest
    · exact hfirst.isObject
    · exact ih document hrest

end DocStore.Proofs.Store.Staging
