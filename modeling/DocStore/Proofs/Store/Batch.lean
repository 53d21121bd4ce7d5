import DocStore.Proofs.Store.Staging

/-!
# A batch is stored as a whole or not at all

`insertMany_cases` gives the two outcomes of an insert. A refused batch leaves the whole store as it
was. An accepted one extends its own collection and no other.
-/
namespace DocStore.Proofs.Store.Batch

open Staging (Entered stage_entered field?_of_mem_entries)

/-- The collection that an insert starts from; an empty one if there is none yet. -/
def held (session : Session) (name : CollectionName) : Collection :=
  (session.collection? name).getD .empty

/-- The session after a staged batch is stored. -/
def extended (session : Session) (name : CollectionName) (staged : Staged) : Session :=
  { session with
    collections := Fields.insert name.text ((held session name).append staged) session.collections }

theorem insertMany_cases (store : Store) (name : CollectionName) (batch : List Json) :
    (∃ error, (store.insertMany name batch).result = .error error ∧
      (store.insertMany name batch).state = store) ∨
    (∃ session staged, name.Valid ∧ store.session = some session ∧
      (held session name).stage name batch = .ok staged ∧
      (store.insertMany name batch).result = .ok ⟨staged.ids, staged.ids.length⟩ ∧
      (store.insertMany name batch).state =
        { store with session := some (extended session name staged) }) := by
  by_cases hvalid : name.Valid
  · cases hsession : store.session with
    | none => simp [Store.insertMany, hvalid, hsession]
    | some session =>
      cases hstage : (held session name).stage name batch with
      | error fault =>
        have hstage' : ((session.collection? name).getD .empty).stage name batch =
          .error fault := hstage
        simp [Store.insertMany, hvalid, hsession, hstage']
      | ok staged =>
        have hstage' : ((session.collection? name).getD .empty).stage name batch =
          .ok staged := hstage
        refine .inr ⟨session, staged, hvalid, rfl, hstage, ?_, ?_⟩
        · simp [Store.insertMany, hvalid, hsession, hstage']
        · simp [Store.insertMany, hvalid, hsession, hstage', extended, held]
  · simp [Store.insertMany, hvalid]

/-- On a session, an insert under a valid name answers with what was staged. -/
theorem insertMany_eq_ok_iff {store : Store} {session : Session} {name : CollectionName}
    {batch : List Json} {inserted : Inserted} (hsession : store.session = some session)
    (hvalid : name.Valid) :
    (store.insertMany name batch).result = .ok inserted ↔
      ∃ staged, (held session name).stage name batch = .ok staged ∧
        inserted = ⟨staged.ids, staged.ids.length⟩ := by
  have hheld : (session.collection? name).getD .empty = held session name := rfl
  cases hstage : (held session name).stage name batch with
  | error fault => simp [Store.insertMany, hvalid, hsession, hheld, hstage]
  | ok staged => simp [Store.insertMany, hvalid, hsession, hheld, hstage, eq_comm]

theorem collection?_extended_self (session : Session) (name : CollectionName) (staged : Staged) :
    (extended session name staged).collection? name = some ((held session name).append staged) :=
  Fields.get?_insert_self _ _ _

theorem collection?_extended_ne (session : Session) {name other : CollectionName} (staged : Staged)
    (h : other ≠ name) :
    (extended session name staged).collection? other = session.collection? other := by
  apply Fields.get?_insert_ne
  intro htext
  exact h (congrArg CollectionName.mk htext)

theorem held_extended_self (session : Session) (name : CollectionName) (staged : Staged) :
    held (extended session name staged) name = (held session name).append staged := by
  rw [held, collection?_extended_self, Option.getD_some]

theorem held_extended_ne (session : Session) {name other : CollectionName} (staged : Staged)
    (h : other ≠ name) : held (extended session name staged) other = held session other := by
  rw [held, collection?_extended_ne session staged h, held]

theorem documents_held (session : Session) (name : CollectionName) :
    session.documents name = (held session name).documents := by
  unfold Session.documents held
  cases session.collection? name <;> rfl

theorem documents_extended_self (session : Session) (name : CollectionName) (staged : Staged) :
    (extended session name staged).documents name =
      session.documents name ++ staged.documents := by
  rw [documents_held session]
  unfold Session.documents
  rw [collection?_extended_self]
  rfl

theorem documents_extended_ne (session : Session) {name other : CollectionName} (staged : Staged)
    (h : other ≠ name) :
    (extended session name staged).documents other = session.documents other := by
  unfold Session.documents
  rw [collection?_extended_ne session staged h]

/-- A refused batch changes nothing. An accepted one extends its collection in order: each document
is entered under an identifier, and the identifiers of the answer are those of the stored
documents. Every other collection stays as it was. -/
theorem insertMany_all_or_nothing (store : Store) (name : CollectionName) (batch : List Json) :
    match (store.insertMany name batch).result with
    | .error _ => (store.insertMany name batch).state = store
    | .ok inserted =>
      ∃ (session after : Session) (entries : List (DocumentId × Json)) (lastId : UInt64),
        store.session = some session ∧
        (store.insertMany name batch).state = { store with session := some after } ∧
        List.Forall₂ (fun given entry => Entered given entry.1 entry.2) batch entries ∧
        (∀ entry ∈ entries, entry.2.field? DocumentId.field = some entry.1.toJson) ∧
        inserted.ids = entries.map (·.1) ∧
        inserted.count = batch.length ∧
        after.collection? name = some {
          documents := session.documents name ++ entries.map (·.2)
          ids := (held session name).ids ++ inserted.ids
          lastId } ∧
        (∀ other, other ≠ name → after.collection? other = session.collection? other) ∧
        after = { session with collections := after.collections } := by
  rcases insertMany_cases store name batch with
    ⟨error, hresult, hstate⟩ | ⟨session, staged, -, hsession, hstage, hresult, hstate⟩
  · rw [hresult]
    exact hstate
  · rw [hresult]
    obtain ⟨entries, hall, hdocuments, hids⟩ := stage_entered hstage
    refine ⟨session, extended session name staged, entries, staged.lastId, hsession, hstate, hall,
      field?_of_mem_entries hall, hids, ?_, ?_, ?_, rfl⟩
    · show staged.ids.length = batch.length
      rw [hids, List.length_map, hall.length_eq]
    · rw [collection?_extended_self, documents_held, ← hdocuments]
      rfl
    · intro other hother
      exact collection?_extended_ne session staged hother

end DocStore.Proofs.Store.Batch
