import DocStore.Store.Cursor

/-!
# What a cursor yields

`remaining` is the list of results that a cursor on a session has still to give: those in its buffer
and those of the documents it has not looked at. A call of `next` takes the first of them, whatever
the size of the pages.
-/
namespace DocStore.Proofs.Store.Draining

/-- One call of `next` after the other answers with these documents, and then there are no more. -/
inductive Yields (store : Store) : Cursor → List Json → Prop
  | ended {cursor : Cursor} : (cursor.next store).result = .ok none → Yields store cursor []
  | more {cursor : Cursor} {document : Json} {documents : List Json} :
      (cursor.next store).result = .ok (some document) →
      Yields store (cursor.next store).state documents →
      Yields store cursor (document :: documents)

/-- The store runs the session that the cursor reads, unless the cursor has seen its end. -/
structure Live (store : Store) (session : Session) (cursor : Cursor) : Prop where
  session_eq : store.session = some session
  reads : cursor.session = none ∨ cursor.session = some session.number

/-- The results of the documents that a cursor has not looked at. -/
def unread (session : Session) (cursor : Cursor) : List Json :=
  if cursor.session = none then []
  else ((session.documents cursor.collection).drop cursor.position).filterMap
    (cursor.pipeline.apply session.documents)

def remaining (session : Session) (cursor : Cursor) : List Json :=
  cursor.buffer ++ unread session cursor

variable {store : Store} {session : Session} {cursor : Cursor}

/-- Results come out one way. -/
theorem Yields.unique {documents documents' : List Json} (h : Yields store cursor documents)
    (h' : Yields store cursor documents') : documents = documents' := by
  induction h generalizing documents' with
  | ended hnone =>
    cases h' with
    | ended _ => rfl
    | more hsome _ =>
      rw [hnone] at hsome
      cases hsome
  | more hsome _ ih =>
    cases h' with
    | ended hnone =>
      rw [hnone] at hsome
      cases hsome
    | more hsome' hrest =>
      rw [hsome] at hsome'
      cases hsome'
      rw [ih hrest]

theorem Live.liveSession?_eq (h : Live store session cursor) (hopen : cursor.session ≠ none) :
    cursor.liveSession? store = some session := by
  have hnumber : cursor.session = some session.number := h.reads.resolve_left hopen
  simp [Cursor.liveSession?, h.session_eq, hnumber]

/-- The next page: how many documents are looked at, and their results. -/
def page (session : Session) (cursor : Cursor) : Nat × List Json :=
  Cursor.scan (cursor.pipeline.apply session.documents) cursor.pageSize
    ((session.documents cursor.collection).drop cursor.position)

theorem readPage_state (session : Session) (cursor : Cursor) :
    (cursor.readPage session).state =
      { cursor with
        position := cursor.position + (page session cursor).1
        buffer := (page session cursor).2
        session :=
          if (session.documents cursor.collection).length ≤
            cursor.position + (page session cursor).1 then none
          else cursor.session } := rfl

/-- A page fills the buffer and leaves the results that remain as they are. -/
theorem readPage_remaining (hbuffer : cursor.buffer = []) (hopen : cursor.session ≠ none) :
    remaining session (cursor.readPage session).state = remaining session cursor := by
  have hresults : (page session cursor).2 =
      (((session.documents cursor.collection).drop cursor.position).take
        (page session cursor).1).filterMap (cursor.pipeline.apply session.documents) :=
    Cursor.scan_results _ _ _
  have hbefore : remaining session cursor =
      ((session.documents cursor.collection).drop cursor.position).filterMap
        (cursor.pipeline.apply session.documents) := by
    simp [remaining, unread, hbuffer, hopen]
  have hafter : remaining session (cursor.readPage session).state =
      (page session cursor).2 ++ ((session.documents cursor.collection).drop
        (cursor.position + (page session cursor).1)).filterMap
          (cursor.pipeline.apply session.documents) := by
    rw [readPage_state]
    by_cases hend : (session.documents cursor.collection).length ≤
        cursor.position + (page session cursor).1
    · simp [remaining, unread, hend, List.drop_of_length_le]
    · simp [remaining, unread, hend, hopen]
  rw [hafter, hbefore, hresults, ← List.drop_drop, ← List.filterMap_append, List.take_append_drop]

/-- A page without results has seen all documents. -/
theorem readPage_ended (hempty : (cursor.readPage session).state.buffer = []) :
    (cursor.readPage session).state.session = none := by
  have hresults : (page session cursor).2 = [] := hempty
  have hseen : (page session cursor).1 =
      ((session.documents cursor.collection).drop cursor.position).length := by
    apply Cursor.scan_seen_of_length_lt
    change (page session cursor).2.length < cursor.pageSize
    rw [hresults]
    exact cursor.pageSize_pos
  rw [List.length_drop] at hseen
  rw [readPage_state]
  exact if_pos (by omega)

/-- What a fetch does to a cursor with an empty buffer. -/
theorem fetch_spec (h : Live store session cursor) (hbuffer : cursor.buffer = []) :
    (cursor.fetch store).result = .ok () ∧
    Live store session (cursor.fetch store).state ∧
    remaining session (cursor.fetch store).state = remaining session cursor ∧
    ((cursor.fetch store).state.buffer = [] → (cursor.fetch store).state.session = none) := by
  by_cases hopen : cursor.session = none
  · have hfetch : cursor.fetch store = { result := .ok (), lines := [], state := cursor } := by
      simp [Cursor.fetch, hopen]
    rw [hfetch]
    exact ⟨rfl, h, rfl, fun _ => hopen⟩
  · have hfetch : cursor.fetch store = cursor.readPage session := by
      simp [Cursor.fetch, hopen, h.liveSession?_eq hopen]
    rw [hfetch]
    refine ⟨rfl, ⟨h.session_eq, ?_⟩, readPage_remaining hbuffer hopen, readPage_ended⟩
    have hnumber : cursor.session = some session.number := h.reads.resolve_left hopen
    by_cases hend : (session.documents cursor.collection).length ≤
        (cursor.readPage session).state.position
    · left
      exact if_pos hend
    · right
      exact (if_neg hend).trans hnumber

/-- A call of `next` takes the first of the results that remain. -/
theorem next_spec (h : Live store session cursor) :
    (cursor.next store).result = .ok (remaining session cursor).head? ∧
    Live store session (cursor.next store).state ∧
    remaining session (cursor.next store).state = (remaining session cursor).tail := by
  cases hbuffer : cursor.buffer with
  | cons first rest =>
    have hnext : cursor.next store =
        { result := .ok (some first), lines := [], state := { cursor with buffer := rest } } := by
      simp [Cursor.next, Cursor.pop, hbuffer]
    rw [hnext]
    refine ⟨?_, ⟨h.session_eq, h.reads⟩, ?_⟩
    · simp [remaining, hbuffer]
    · simp [remaining, unread, hbuffer]
  | nil =>
    obtain ⟨hresult, hlive, hremaining, hended⟩ := fetch_spec h hbuffer
    have hnext : cursor.next store =
        { result := .ok (cursor.fetch store).state.pop.1
          lines := (cursor.fetch store).lines
          state := (cursor.fetch store).state.pop.2 } := by
      simp [Cursor.next, hbuffer, hresult]
    rw [hnext, ← hremaining]
    generalize (cursor.fetch store).state = fetched at hlive hended ⊢
    cases hfetched : fetched.buffer with
    | nil =>
      have hnone : remaining session fetched = [] := by
        simp [remaining, unread, hfetched, hended hfetched]
      have hpop : fetched.pop = (none, fetched) := by simp [Cursor.pop, hfetched]
      rw [hpop, hnone]
      exact ⟨rfl, hlive, rfl⟩
    | cons first rest =>
      have hpop : fetched.pop = (some first, { fetched with buffer := rest }) := by
        simp [Cursor.pop, hfetched]
      rw [hpop]
      refine ⟨?_, ⟨hlive.session_eq, hlive.reads⟩, ?_⟩
      · simp [remaining, hfetched]
      · simp [remaining, unread, hfetched]

/-- A cursor whose session runs yields all results that remain. -/
theorem yields_remaining (h : Live store session cursor) :
    Yields store cursor (remaining session cursor) := by
  generalize hresults : remaining session cursor = results
  induction results generalizing cursor with
  | nil =>
    obtain ⟨hresult, -, -⟩ := next_spec h
    rw [hresults] at hresult
    exact .ended hresult
  | cons document rest ih =>
    obtain ⟨hresult, hlive, htail⟩ := next_spec h
    rw [hresults] at hresult htail
    exact .more hresult (ih hlive htail)

/-- `take` gives all results if it is allowed enough calls. -/
theorem Yields.take_eq {documents : List Json} (h : Yields store cursor documents) {fuel : Nat}
    (hfuel : documents.length < fuel) : (cursor.take store fuel).2.1 = documents.map .ok := by
  induction h generalizing fuel with
  | ended hnone =>
    obtain ⟨fuel, rfl⟩ : ∃ n, fuel = n + 1 := ⟨fuel - 1, by omega⟩
    simp [Cursor.take, hnone]
  | @more cursor _ documents hsome _ ih =>
    obtain ⟨fuel, rfl⟩ : ∃ n, fuel = n + 1 := ⟨fuel - 1, by omega⟩
    have hrest : ((cursor.next store).state.take store fuel).2.1 = documents.map .ok :=
      ih (by simpa using hfuel)
    simp [Cursor.take, hsome, hrest]

theorem length_remaining_lt (h : Live store session cursor) :
    (remaining session cursor).length < cursor.bound store := by
  by_cases hopen : cursor.session = none
  · simp only [remaining, unread, hopen, if_true, List.append_nil, Cursor.bound]
    omega
  · have hfilter := List.length_filterMap_le (cursor.pipeline.apply session.documents)
      ((session.documents cursor.collection).drop cursor.position)
    rw [List.length_drop] at hfilter
    simp only [remaining, unread, hopen, if_false, List.length_append, Cursor.bound,
      h.liveSession?_eq hopen]
    omega

/-- Draining a cursor whose session runs gives the results that remain and no error. -/
theorem drain_eq (h : Live store session cursor) :
    (cursor.drain store).2.1 = (remaining session cursor).map .ok := by
  have hlength := length_remaining_lt h
  exact (yields_remaining h).take_eq (by omega)

end DocStore.Proofs.Store.Draining
