import DocStore.Proofs.Store.Batch

/-!
# Reachable stores

A reachable store comes from a store without a session by starting, stopping and inserting. What
holds of a new session and is kept by every staged batch holds of the session of a reachable store.
-/
namespace DocStore.Proofs.Store.Life

open Batch Staging

/-- What the operations make of a store whose pages have any size. -/
inductive Reachable : Store → Prop
  | fresh (pageSize : Nat) (h : 0 < pageSize) : Reachable ⟨none, 0, pageSize, h⟩
  | start {store : Store} (name label : String) : Reachable store →
      Reachable (store.start name label).state
  | stop {store : Store} : Reachable store → Reachable store.stop.state
  | insertMany {store : Store} (name : CollectionName) (batch : List Json) : Reachable store →
      Reachable (store.insertMany name batch).state

def opened (name label : String) (number : Nat) : Session :=
  { name, label, number, collections := [] }

/-- A start changes nothing or opens a session without collections. -/
theorem start_cases (store : Store) (name label : String) :
    (store.start name label).state = store ∨
    (store.session = none ∧ (store.start name label).state =
      { store with
        session := some (opened name label (store.opened + 1)), opened := store.opened + 1 }) := by
  cases hsession : store.session with
  | some session =>
    left
    simp [Store.start, hsession]
  | none =>
    cases hblank : Text.allBlank name with
    | true =>
      left
      simp [Store.start, hsession, hblank]
    | false =>
      right
      simp [Store.start, hsession, hblank, opened]

theorem start_ok {store : Store} {name label : String} (h : (store.start name label).result = .ok ()) :
    (store.start name label).state.session = some (opened name label (store.opened + 1)) := by
  cases hsession : store.session with
  | some session => simp [Store.start, hsession] at h
  | none =>
    cases hblank : Text.allBlank name with
    | true => simp [Store.start, hsession, hblank] at h
    | false => simp [Store.start, hsession, hblank, opened]

variable {P : Session → Prop}

/-- The induction over the life of a store, for a property of its session. -/
theorem Reachable.session_property
    (hopened : ∀ name label number, P (opened name label number))
    (hextended : ∀ session name batch staged, (held session name).stage name batch = .ok staged →
      P session → P (extended session name staged))
    {store : Store} (h : Reachable store) : ∀ session, store.session = some session → P session := by
  induction h with
  | fresh =>
    intro session hsession
    cases hsession
  | @start store name label _ ih =>
    intro session hsession
    rcases start_cases store name label with hstate | ⟨-, hstate⟩
    · rw [hstate] at hsession
      exact ih session hsession
    · rw [hstate] at hsession
      obtain rfl := Option.some.inj hsession
      exact hopened name label _
  | stop _ _ =>
    intro session hsession
    cases hsession
  | @insertMany store name batch _ ih =>
    intro session hsession
    rcases insertMany_cases store name batch with
      ⟨_, -, hstate⟩ | ⟨before, staged, -, hbefore, hstage, -, hstate⟩
    · rw [hstate] at hsession
      exact ih session hsession
    · rw [hstate] at hsession
      obtain rfl := Option.some.inj hsession
      exact hextended before name batch staged hstage (ih before hbefore)

/-- The same for a property of collections: every staged batch keeps it. -/
theorem Reachable.collection_property {Q : Collection → Prop} (hempty : Q .empty)
    (happend : ∀ stored name batch staged, stored.stage name batch = .ok staged → Q stored →
      Q (stored.append staged))
    {store : Store} (h : Reachable store) {session : Session} (hsession : store.session = some session)
    (name : CollectionName) : Q (held session name) := by
  refine h.session_property (P := fun session => ∀ name, Q (held session name)) ?_ ?_ session
    hsession name
  · intro _ _ _ _
    exact hempty
  · intro session name batch staged hstage hall other
    by_cases hother : other = name
    · subst hother
      rw [held_extended_self]
      exact happend _ _ _ _ hstage (hall other)
    · rw [held_extended_ne session staged hother]
      exact hall other

/-- The numbers of sessions that are opened later are greater. -/
theorem Reachable.number_le (h : Reachable store) :
    ∀ session, store.session = some session → session.number ≤ store.opened := by
  induction h with
  | fresh | stop =>
    intro session hsession
    cases hsession
  | @start store name label _ ih =>
    intro session hsession
    rcases start_cases store name label with hstate | ⟨-, hstate⟩
    · rw [hstate] at hsession ⊢
      exact ih session hsession
    · rw [hstate] at hsession ⊢
      obtain rfl := Option.some.inj hsession
      exact Nat.le_refl _
  | @insertMany store name batch _ ih =>
    intro session hsession
    rcases insertMany_cases store name batch with
      ⟨_, -, hstate⟩ | ⟨before, staged, -, hbefore, -, -, hstate⟩
    · rw [hstate] at hsession ⊢
      exact ih session hsession
    · rw [hstate] at hsession ⊢
      obtain rfl := Option.some.inj hsession
      exact ih before hbefore

/-- All documents of a session are objects. -/
def Documented (session : Session) : Prop :=
  ∀ name, ∀ document ∈ session.documents name, document.isObject = true

theorem Reachable.documented {store : Store} (h : Reachable store) {session : Session}
    (hsession : store.session = some session) : Documented session := by
  refine h.session_property (P := Documented) ?_ ?_ session hsession
  · intro name label number other document hdocument
    cases hdocument
  · intro session name batch staged hstage hdocumented other document hdocument
    by_cases hother : other = name
    · subst hother
      rw [documents_extended_self] at hdocument
      rcases List.mem_append.1 hdocument with hold | hnew
      · exact hdocumented other document hold
      · exact isObject_of_stage hstage document hnew
    · rw [documents_extended_ne session staged hother] at hdocument
      exact hdocumented other document hdocument

end DocStore.Proofs.Store.Life
