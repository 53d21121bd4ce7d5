import DocStore.Proofs.Store.Batch

/-!
# Batches in parts

Staging goes on from a stored part as it does from a staged one. So parts that are inserted one
after the other are accepted exactly if they are accepted as one batch, and both ways lead to the
same store.
-/
namespace DocStore.Proofs.Store.Parts

open Batch Staging

/-- One staged part with another one behind it. -/
def joined (first second : Staged) : Staged :=
  ⟨first.documents ++ second.documents, first.ids ++ second.ids, second.lastId⟩

variable {name : CollectionName} {stored : Collection} {document : Json}

theorem add_eq_ok_iff {staged staged' : Staged} :
    Staged.add name stored staged document = .ok staged' ↔
      ∃ fields fields' id lastId', document = .obj fields ∧
        Staged.identify name staged.lastId fields = .ok (fields', id, lastId') ∧
        id ∉ stored.ids ∧ id ∉ staged.ids ∧
        staged' = ⟨staged.documents ++ [.obj fields'], staged.ids ++ [id], lastId'⟩ := by
  refine ⟨add_cases, ?_⟩
  rintro ⟨fields, fields', id, lastId', rfl, hid, hstored, hstaged, rfl⟩
  simp only [Staged.add, hid, bind_eq_ok_iff]
  refine ⟨_, rfl, ?_⟩
  rw [if_neg (not_or.2 ⟨hstored, hstaged⟩)]
  rfl

/-- It makes no difference whether the part before a document is stored or only staged. -/
theorem add_joined_iff {first second result : Staged} :
    Staged.add name stored (joined first second) document = .ok result ↔
      ∃ second', Staged.add name (stored.append first) second document = .ok second' ∧
        result = joined first second' := by
  simp only [add_eq_ok_iff]
  constructor
  · rintro ⟨fields, fields', id, lastId', rfl, hid, hstored, hstaged, rfl⟩
    obtain ⟨hfirst, hsecond⟩ := not_or.1 (mt List.mem_append.2 hstaged)
    refine ⟨_, ⟨fields, fields', id, lastId', rfl, hid, ?_, hsecond, rfl⟩, ?_⟩
    · exact mt List.mem_append.1 (not_or.2 ⟨hstored, hfirst⟩)
    · simp [joined]
  · rintro ⟨_, ⟨fields, fields', id, lastId', rfl, hid, hstored, hsecond, rfl⟩, rfl⟩
    obtain ⟨hold, hfirst⟩ := not_or.1 (mt List.mem_append.2 hstored)
    refine ⟨fields, fields', id, lastId', rfl, hid, hold, ?_, ?_⟩
    · exact mt List.mem_append.1 (not_or.2 ⟨hfirst, hsecond⟩)
    · simp [joined]

theorem foldlM_add_joined_iff {batch : List Json} {first second result : Staged} :
    batch.foldlM (Staged.add name stored) (joined first second) = .ok result ↔
      ∃ second', batch.foldlM (Staged.add name (stored.append first)) second = .ok second' ∧
        result = joined first second' := by
  induction batch generalizing second with
  | nil =>
    simp only [List.foldlM_nil]
    constructor
    · intro h
      exact ⟨second, rfl, (Except.ok.inj h).symm⟩
    · rintro ⟨_, hsecond, rfl⟩
      rw [← Except.ok.inj hsecond]
      rfl
  | cons document rest ih =>
    simp only [List.foldlM_cons, bind_eq_ok_iff, add_joined_iff]
    constructor
    · rintro ⟨_, ⟨middle, hadd, rfl⟩, hrest⟩
      obtain ⟨second', hrest', rfl⟩ := ih.1 hrest
      exact ⟨second', ⟨middle, hadd, hrest'⟩, rfl⟩
    · rintro ⟨second', ⟨middle, hadd, hrest⟩, rfl⟩
      exact ⟨_, ⟨middle, hadd, rfl⟩, ih.2 ⟨second', hrest, rfl⟩⟩

theorem stage_append_iff {batch more : List Json} {result : Staged} :
    stored.stage name (batch ++ more) = .ok result ↔
      ∃ first second, stored.stage name batch = .ok first ∧
        (stored.append first).stage name more = .ok second ∧ result = joined first second := by
  unfold Collection.stage
  simp only [List.foldlM_append, bind_eq_ok_iff]
  have hstart : ∀ first : Staged, first = joined first ⟨[], [], (stored.append first).lastId⟩ := by
    intro first
    simp [joined, Collection.append]
  constructor
  · rintro ⟨first, hfirst, hmore⟩
    rw [hstart first] at hmore
    obtain ⟨second, hsecond, rfl⟩ := foldlM_add_joined_iff.1 hmore
    exact ⟨first, second, hfirst, hsecond, rfl⟩
  · rintro ⟨first, second, hfirst, hsecond, rfl⟩
    refine ⟨first, hfirst, ?_⟩
    conv_lhs => rw [hstart first]
    exact foldlM_add_joined_iff.2 ⟨second, hsecond, rfl⟩

/-! ## One insert after the other -/

/-- The store accepts the batch with this answer and becomes `after`. -/
def Inserts (name : CollectionName) (store : Store) (batch : List Json) (inserted : Inserted)
    (after : Store) : Prop :=
  (store.insertMany name batch).result = .ok inserted ∧ (store.insertMany name batch).state = after

/-- The store accepts the batch and becomes `after`. -/
def Accepted (name : CollectionName) (store : Store) (batch : List Json) (after : Store) : Prop :=
  (∃ inserted, (store.insertMany name batch).result = .ok inserted) ∧
    (store.insertMany name batch).state = after

/-- The store accepts the parts, each as it is left by those before, and becomes `last`. -/
def AcceptedInTurn (name : CollectionName) : Store → List (List Json) → Store → Prop
  | store, [], last => last = store
  | store, part :: rest, last =>
    ∃ after, Accepted name store part after ∧ AcceptedInTurn name after rest last

variable {store after last : Store} {batch more : List Json} {parts : List (List Json)}

/-- What an insert that is accepted stages, answers and leaves. -/
theorem inserts_iff {inserted : Inserted} : Inserts name store batch inserted after ↔
    ∃ session staged, name.Valid ∧ store.session = some session ∧
      (held session name).stage name batch = .ok staged ∧
      inserted = ⟨staged.ids, staged.ids.length⟩ ∧
      after = { store with session := some (extended session name staged) } := by
  constructor
  · rintro ⟨hresult, rfl⟩
    rcases insertMany_cases store name batch with
      ⟨error, herror, -⟩ | ⟨session, staged, hvalid, hsession, hstage, hok, hstate⟩
    · rw [herror] at hresult
      cases hresult
    · rw [hok] at hresult
      exact ⟨session, staged, hvalid, hsession, hstage, (Except.ok.inj hresult).symm, hstate⟩
  · rintro ⟨session, staged, hvalid, hsession, hstage, rfl, rfl⟩
    have hstage' : ((session.collection? name).getD .empty).stage name batch = .ok staged := hstage
    simp [Inserts, Store.insertMany, hvalid, hsession, hstage', extended, held]

theorem accepted_iff_exists :
    Accepted name store batch after ↔ ∃ inserted, Inserts name store batch inserted after :=
  exists_and_right.symm

theorem Accepted.unique {after' : Store} (h : Accepted name store batch after)
    (h' : Accepted name store batch after') : after = after' := h.2.symm.trans h'.2

/-- A collection that is extended twice is the same as if it were extended once. -/
theorem extended_extended (session : Session) (name : CollectionName) (first second : Staged) :
    extended (extended session name first) name second =
      extended session name (joined first second) := by
  conv_lhs => rw [extended, held_extended_self]
  simp only [extended, Fields.insert_insert, joined, Collection.append, List.append_assoc]

/-- Two batches are accepted one after the other exactly if they are accepted as one. The answers
add up to the answer to both at once, and the store becomes the same. -/
theorem inserts_append_iff {inserted : Inserted} :
    Inserts name store (batch ++ more) inserted last ↔
      ∃ before middle behind, Inserts name store batch before middle ∧
        Inserts name middle more behind last ∧
        inserted = ⟨before.ids ++ behind.ids, before.count + behind.count⟩ := by
  simp only [inserts_iff, stage_append_iff]
  constructor
  · rintro ⟨session, _, hvalid, hsession, ⟨first, second, hfirst, hsecond, rfl⟩, rfl, rfl⟩
    refine ⟨_, _, _, ⟨session, first, hvalid, hsession, hfirst, rfl, rfl⟩,
      ⟨_, second, hvalid, rfl, ?_, rfl, ?_⟩, ?_⟩
    · rw [held_extended_self]
      exact hsecond
    · rw [extended_extended]
    · simp [joined]
  · rintro ⟨_, _, _, ⟨session, first, hvalid, hsession, hfirst, rfl, rfl⟩,
      ⟨_, second, -, hmiddle, hsecond, rfl, rfl⟩, rfl⟩
    obtain rfl := Option.some.inj hmiddle
    rw [held_extended_self] at hsecond
    refine ⟨session, _, hvalid, hsession, ⟨first, second, hfirst, hsecond, rfl⟩, ?_, ?_⟩
    · simp [joined]
    · rw [extended_extended]

theorem accepted_append_iff : Accepted name store (batch ++ more) last ↔
    ∃ middle, Accepted name store batch middle ∧ Accepted name middle more last := by
  simp only [accepted_iff_exists, inserts_append_iff]
  constructor
  · rintro ⟨_, before, middle, behind, hbatch, hmore, -⟩
    exact ⟨middle, ⟨before, hbatch⟩, behind, hmore⟩
  · rintro ⟨middle, ⟨before, hbatch⟩, behind, hmore⟩
    exact ⟨_, before, middle, behind, hbatch, hmore, rfl⟩

/-- Parts are accepted in turn exactly if they are accepted as one batch. No part at all is another
matter: it leaves the store alone, where a batch without documents makes the collection. -/
theorem acceptedInTurn_iff (hparts : parts ≠ []) :
    AcceptedInTurn name store parts last ↔ Accepted name store parts.flatten last := by
  induction parts generalizing store with
  | nil => exact absurd rfl hparts
  | cons part rest ih =>
    cases rest with
    | nil => simp [AcceptedInTurn]
    | cons next rest =>
      rw [List.flatten_cons, accepted_append_iff]
      exact exists_congr fun middle => and_congr_right fun _ => ih (List.cons_ne_nil next rest)

theorem acceptedInTurn_append_iff {others : List (List Json)} :
    AcceptedInTurn name store (parts ++ others) last ↔
      ∃ middle, AcceptedInTurn name store parts middle ∧
        AcceptedInTurn name middle others last := by
  induction parts generalizing store with
  | nil => simp [AcceptedInTurn]
  | cons part rest ih =>
    simp only [List.cons_append, AcceptedInTurn, ih]
    constructor
    · rintro ⟨after, hpart, middle, hrest, hothers⟩
      exact ⟨middle, ⟨after, hpart, hrest⟩, hothers⟩
    · rintro ⟨middle, ⟨after, hpart, hrest⟩, hothers⟩
      exact ⟨after, hpart, middle, hrest, hothers⟩

theorem AcceptedInTurn.unique {last' : Store} (h : AcceptedInTurn name store parts last)
    (h' : AcceptedInTurn name store parts last') : last = last' := by
  induction parts generalizing store with
  | nil => exact h.trans h'.symm
  | cons part rest ih =>
    obtain ⟨after, hpart, hrest⟩ := h
    obtain ⟨after', hpart', hrest'⟩ := h'
    obtain rfl := hpart.unique hpart'
    exact ih hrest hrest'

/-- A batch can be cut anywhere. The two parts are accepted one after the other exactly if the batch
is accepted as a whole; then both ways lead to the same store, and the identifiers that are answered
for the batch are those answered for its parts. -/
theorem insertMany_append (store : Store) (name : CollectionName) (batch more : List Json) :
    let whole := store.insertMany name (batch ++ more)
    let first := store.insertMany name batch
    let second := first.state.insertMany name more
    (∀ inserted, whole.result = .ok inserted ↔
      ∃ before behind, first.result = .ok before ∧ second.result = .ok behind ∧
        inserted = ⟨before.ids ++ behind.ids, before.count + behind.count⟩) ∧
    ((∃ inserted, whole.result = .ok inserted) → whole.state = second.state) := by
  intro whole first second
  constructor
  · intro inserted
    constructor
    · intro hwhole
      obtain ⟨before, _, behind, ⟨hfirst, rfl⟩, ⟨hsecond, -⟩, hinserted⟩ :=
        inserts_append_iff.1 ⟨hwhole, rfl⟩
      exact ⟨before, behind, hfirst, hsecond, hinserted⟩
    · rintro ⟨before, behind, hfirst, hsecond, hinserted⟩
      exact (inserts_append_iff.2
        ⟨before, first.state, behind, ⟨hfirst, rfl⟩, ⟨hsecond, rfl⟩, hinserted⟩).1
  · rintro ⟨inserted, hwhole⟩
    obtain ⟨_, _, _, ⟨-, rfl⟩, ⟨-, hsecond⟩, -⟩ := inserts_append_iff.1 ⟨hwhole, rfl⟩
    exact hsecond.symm

end DocStore.Proofs.Store.Parts
