import DocStore.Proofs.Store.Watching

/-!
# Where results come from

Whatever a cursor has yielded or holds in its buffer was made by its pipeline of one document of its
collection, in a session that the store had when this document was looked at. No call changes that;
after a stop nothing is looked at any more.
-/
namespace DocStore.Proofs.Store.Sources

open Advance Draining Life Watching

variable {name : CollectionName} {pipeline : Pipeline} {store : Store} {session : Session}
variable {cursor after : Cursor} {result : Except Error (Option Json)} {found : Json}
variable {watch : Watch} {event : Event}

/-- The pipeline makes this result of a document of the session. -/
def MadeIn (name : CollectionName) (pipeline : Pipeline) (found : Json) (session : Session) : Prop :=
  ∃ document ∈ session.documents name, pipeline.apply session.documents document = some found

/-- The sessions that were seen are sessions of reachable stores, and the results were made in
them. -/
structure Sourced (name : CollectionName) (pipeline : Pipeline) (watch : Watch) : Prop where
  reachable : Reachable watch.store
  collection_eq : watch.cursor.collection = name
  pipeline_eq : watch.cursor.pipeline = pipeline
  seen : ∀ session ∈ watch.seen, ∃ store, Reachable store ∧ store.session = some session
  made : ∀ found ∈ yielded watch.answers ++ watch.cursor.buffer,
    ∃ session ∈ watch.seen, MadeIn name pipeline found session

theorem madeIn_of_mem_page (h : found ∈ (page session cursor).2) :
    0 < (page session cursor).1 ∧ MadeIn cursor.collection cursor.pipeline found session := by
  have hresults : (page session cursor).2 =
      (((session.documents cursor.collection).drop cursor.position).take
        (page session cursor).1).filterMap (cursor.pipeline.apply session.documents) :=
    Cursor.scan_results _ _ _
  rw [hresults] at h
  obtain ⟨document, hdocument, happly⟩ := List.mem_filterMap.1 h
  constructor
  · apply Nat.pos_of_ne_zero
    intro hzero
    rw [hzero, List.take_zero] at hdocument
    cases hdocument
  · exact ⟨document, List.mem_of_mem_drop (List.mem_of_mem_take hdocument), happly⟩

/-- A result comes out of the buffer, or out of a page of the session that runs. -/
theorem made_of_next (h : Next store cursor result after)
    (hfound : found ∈ yielded [result] ++ after.buffer) :
    found ∈ cursor.buffer ∨ cursor.position < after.position ∧
      ∃ session, store.session = some session ∧
        MadeIn cursor.collection cursor.pipeline found session := by
  cases h with
  | popped hbuffer =>
    left
    rw [hbuffer]
    exact hfound
  | ended => exact .inl hfound
  | gone => exact .inl hfound
  | @fetched session hbuffer hsession hnumber =>
    have hpage : found ∈ (page session cursor).2 := by
      revert hfound
      show found ∈ yielded [.ok (page session cursor).2.head?] ++ (page session cursor).2.tail → _
      cases (page session cursor).2 <;> exact id
    obtain ⟨hlooked, hmade⟩ := madeIn_of_mem_page hpage
    exact .inr ⟨Nat.lt_add_of_pos_right hlooked, session, hsession, hmade⟩

theorem step_reachable (h : Reachable watch.store) (event : Event) :
    Reachable (watch.step event).store := by
  cases event with
  | next | use => exact h
  | insertMany name batch => exact .insertMany name batch h
  | start name label => exact .start name label h
  | stop => exact .stop h
  | aggregate name pipeline =>
    simp only [Watch.step]
    split <;> exact h

/-- A session is seen when the cursor looks at documents while it runs. -/
theorem mem_seen_next : session ∈ (watch.step .next).seen ↔ session ∈ watch.seen ∨
    watch.cursor.position < (watch.step .next).cursor.position ∧
      watch.store.session = some session := by
  simp only [Watch.step, List.mem_append, List.mem_flatMap, Option.mem_toList, List.mem_replicate,
    Nat.sub_ne_zero_iff_lt]
  constructor
  · rintro (hold | ⟨_, hrunning, hlooked, rfl⟩)
    · exact .inl hold
    · exact .inr ⟨hlooked, hrunning⟩
  · rintro (hold | ⟨hlooked, hrunning⟩)
    · exact .inl hold
    · exact .inr ⟨session, hrunning, hlooked, rfl⟩

theorem Sourced.next (h : Sourced name pipeline watch) :
    Sourced name pipeline (watch.step .next) := by
  have hnext := next_next watch.store watch.cursor
  constructor
  · exact h.reachable
  · exact hnext.collection_eq.trans h.collection_eq
  · exact hnext.pipeline_eq.trans h.pipeline_eq
  · intro session hsession
    rcases mem_seen_next.1 hsession with hold | ⟨-, hrunning⟩
    · exact h.seen session hold
    · exact ⟨watch.store, h.reachable, hrunning⟩
  · intro found hfound
    have hanswers : yielded (watch.step .next).answers =
        yielded watch.answers ++ yielded [(watch.cursor.next watch.store).result] :=
      yielded_append _ _
    rw [hanswers, List.append_assoc, List.mem_append] at hfound
    -- What the call answers with and what it leaves behind was there before or is from its page.
    have hsource : found ∈ yielded watch.answers ++ watch.cursor.buffer ∨
        watch.cursor.position < (watch.step .next).cursor.position ∧
          ∃ session, watch.store.session = some session ∧
            MadeIn watch.cursor.collection watch.cursor.pipeline found session := by
      rcases hfound with hold | hnew
      · exact .inl (List.mem_append_left _ hold)
      · exact (made_of_next hnext hnew).imp_left (List.mem_append_right _)
    rcases hsource with hold | ⟨hlooked, session, hrunning, hmade⟩
    · obtain ⟨session, hsession, hmade⟩ := h.made found hold
      exact ⟨session, mem_seen_next.2 (.inl hsession), hmade⟩
    · rw [h.collection_eq, h.pipeline_eq] at hmade
      exact ⟨session, mem_seen_next.2 (.inr ⟨hlooked, hrunning⟩), hmade⟩

theorem Sourced.step (h : Sourced name pipeline watch) (event : Event) :
    Sourced name pipeline (watch.step event) := by
  by_cases hnext : event = .next
  · subst hnext
    exact h.next
  · obtain ⟨hcursor, hanswers, hseen⟩ := step_of_ne_next watch hnext
    refine ⟨step_reachable h.reachable event, ?_, ?_, ?_, ?_⟩
    · rw [hcursor]
      exact h.collection_eq
    · rw [hcursor]
      exact h.pipeline_eq
    · rw [hseen]
      exact h.seen
    · rw [hanswers, hcursor, hseen]
      exact h.made

theorem Sourced.run (h : Sourced name pipeline watch) (events : List Event) :
    Sourced name pipeline (watch.run events) := by
  induction events generalizing watch with
  | nil => exact h
  | cons event rest ih => exact ih (h.step event)

theorem begun_sourced (hreachable : Reachable store) (hbuffer : cursor.buffer = [])
    (others : List Cursor) :
    Sourced cursor.collection cursor.pipeline (.begun store cursor others) := by
  refine ⟨hreachable, rfl, rfl, List.forall_mem_nil _, ?_⟩
  show ∀ found ∈ [] ++ cursor.buffer, _
  rw [hbuffer]
  exact List.forall_mem_nil _

end DocStore.Proofs.Store.Sources
