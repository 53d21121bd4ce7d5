import DocStore.Proofs.Store.Advance
import DocStore.Proofs.Store.Life

/-!
# A cursor among other calls

`Watch` follows one cursor while calls of all kinds are made on its store and on other cursors. It
records the answers of the cursor, and for each document that the cursor has looked at, the session
as it was at that moment. No call depends on the records.
-/
namespace DocStore.Proofs.Store.Watching

open Advance Batch Draining Life

/-- A call on a cursor that is not watched. -/
inductive Use where
  | next
  | nextBatch (memory : Memory) (max : Nat)
  | close

def Use.on (store : Store) (cursor : Cursor) : Use → Cursor
  | .next => (cursor.next store).state
  | .nextBatch memory max => (cursor.nextBatch memory store max).state
  | .close => cursor.close.state

inductive Event where
  /-- The watched cursor is asked for its next result. -/
  | next
  | insertMany (name : CollectionName) (batch : List Json)
  | start (name label : String)
  | stop
  /-- Another cursor is opened. -/
  | aggregate (name : CollectionName) (pipeline : Pipeline)
  /-- Another cursor is used. -/
  | use (index : Nat) (use : Use)

structure Watch where
  store : Store
  cursor : Cursor
  others : List Cursor
  answers : List (Except Error (Option Json))
  /-- The sessions in which the documents before the cursor's position were looked at. -/
  seen : List Session

namespace Watch

/-- The watch begins, with nothing answered and nothing seen. -/
def begun (store : Store) (cursor : Cursor) (others : List Cursor) : Watch :=
  ⟨store, cursor, others, [], []⟩

def step (watch : Watch) : Event → Watch
  | .next =>
    let outcome := watch.cursor.next watch.store
    let looked := outcome.state.position - watch.cursor.position
    { watch with
      cursor := outcome.state
      answers := watch.answers ++ [outcome.result]
      seen := watch.seen ++ watch.store.session.toList.flatMap (List.replicate looked) }
  | .insertMany name batch => { watch with store := (watch.store.insertMany name batch).state }
  | .start name label => { watch with store := (watch.store.start name label).state }
  | .stop => { watch with store := watch.store.stop.state }
  | .aggregate name pipeline =>
    match (watch.store.aggregate name pipeline).result with
    | .ok cursor => { watch with others := watch.others ++ [cursor] }
    | .error _ => watch
  | .use index use => { watch with others := watch.others.modify index (use.on watch.store ·) }

def run (watch : Watch) (events : List Event) : Watch := events.foldl step watch

end Watch

/-- The documents of a collection; none if the store is not started. -/
def documentsIn (store : Store) (name : CollectionName) : List Json :=
  match store.session with
  | some session => session.documents name
  | none => []

theorem documentsIn_eq {store : Store} {session : Session} (h : store.session = some session)
    (name : CollectionName) : documentsIn store name = session.documents name := by
  rw [documentsIn, h]

/-- The documents among the answers. -/
def yielded (answers : List (Except Error (Option Json))) : List Json :=
  answers.filterMap fun
    | .ok first => first
    | .error _ => none

/-- The results of documents, each in the session in which it was looked at. -/
def results (pipeline : Pipeline) (documents : List Json) (seen : List Session) : List Json :=
  (documents.zip seen).filterMap fun pair => pipeline.apply pair.2.documents pair.1

theorem yielded_append (answers more : List (Except Error (Option Json))) :
    yielded (answers ++ more) = yielded answers ++ yielded more := List.filterMap_append

theorem yielded_concat (answers : List (Except Error (Option Json))) (first : Option Json) :
    yielded (answers ++ [.ok first]) = yielded answers ++ first.toList := by
  cases first <;> simp [yielded]

theorem results_append {pipeline : Pipeline} {documents more : List Json}
    {seen later : List Session} (h : documents.length = seen.length) :
    results pipeline (documents ++ more) (seen ++ later) =
      results pipeline documents seen ++ results pipeline more later := by
  unfold results
  rw [List.zip_append h, List.filterMap_append]

/-- Documents that are looked at together have the results of a page. -/
theorem results_replicate (pipeline : Pipeline) (documents : List Json) (session : Session) :
    results pipeline documents (List.replicate documents.length session) =
      documents.filterMap (pipeline.apply session.documents) := by
  induction documents with
  | nil => rfl
  | cons document rest ih =>
    have hzip : (document :: rest).zip (List.replicate (rest.length + 1) session) =
        (document, session) :: rest.zip (List.replicate rest.length session) := rfl
    unfold results at ih ⊢
    rw [List.length_cons, hzip, List.filterMap_cons, List.filterMap_cons, ih]

/-! ## What the store can become without a stop -/

/-- The same session, with documents added behind those it had. -/
structure Extends (before after : Session) : Prop where
  number_eq : after.number = before.number
  documents_prefix : ∀ name, before.documents name <+: after.documents name

theorem Extends.refl (session : Session) : Extends session session :=
  ⟨rfl, fun _ => List.prefix_rfl⟩

theorem Extends.trans {first second third : Session} (h : Extends first second)
    (h' : Extends second third) : Extends first third :=
  ⟨h'.number_eq.trans h.number_eq,
    fun name => (h.documents_prefix name).trans (h'.documents_prefix name)⟩

theorem extends_extended (session : Session) (name : CollectionName) (staged : Staged) :
    Extends session (extended session name staged) := by
  refine ⟨rfl, fun other => ?_⟩
  by_cases hother : other = name
  · subst hother
    rw [documents_extended_self]
    exact List.prefix_append _ _
  · exact ⟨[], by rw [documents_extended_ne session staged hother, List.append_nil]⟩

variable {watch : Watch} {event : Event} {session : Session}

theorem step_store (hsession : watch.store.session = some session) (hstop : event ≠ .stop) :
    ∃ session', (watch.step event).store.session = some session' ∧ Extends session session' := by
  cases event with
  | stop => exact absurd rfl hstop
  | next => exact ⟨session, hsession, .refl session⟩
  | use index use => exact ⟨session, hsession, .refl session⟩
  | aggregate name pipeline =>
    refine ⟨session, ?_, .refl session⟩
    simp only [Watch.step]
    split <;> exact hsession
  | start name label =>
    refine ⟨session, ?_, .refl session⟩
    rcases start_cases watch.store name label with hstate | ⟨hnone, -⟩
    · show (watch.store.start name label).state.session = some session
      rw [hstate]
      exact hsession
    · rw [hsession] at hnone
      cases hnone
  | insertMany name batch =>
    rcases insertMany_cases watch.store name batch with
      ⟨error, -, hstate⟩ | ⟨before, staged, -, hbefore, -, -, hstate⟩
    · refine ⟨session, ?_, .refl session⟩
      show (watch.store.insertMany name batch).state.session = some session
      rw [hstate]
      exact hsession
    · obtain rfl := Option.some.inj (hsession.symm.trans hbefore)
      refine ⟨extended session name staged, ?_, extends_extended session name staged⟩
      show (watch.store.insertMany name batch).state.session = _
      rw [hstate]

/-- Only `next` touches the watched cursor and the records. -/
theorem step_of_ne_next (watch : Watch) (hnext : event ≠ .next) :
    (watch.step event).cursor = watch.cursor ∧ (watch.step event).answers = watch.answers ∧
      (watch.step event).seen = watch.seen := by
  cases event with
  | next => exact absurd rfl hnext
  | aggregate name pipeline =>
    simp only [Watch.step]
    split <;> exact ⟨rfl, rfl, rfl⟩
  | insertMany | start | stop | use => exact ⟨rfl, rfl, rfl⟩

/-! ## What a run keeps, whatever happens to the store -/

theorem step_position_le (watch : Watch) (event : Event) :
    watch.cursor.position ≤ (watch.step event).cursor.position := by
  by_cases hnext : event = .next
  · subst hnext
    exact (next_next watch.store watch.cursor).position_le
  · have hcursor := (step_of_ne_next watch hnext).1
    exact Nat.le_of_eq (congrArg Cursor.position hcursor.symm)

theorem run_position_le (watch : Watch) (events : List Event) :
    watch.cursor.position ≤ (watch.run events).cursor.position := by
  induction events generalizing watch with
  | nil => exact Nat.le_refl _
  | cons event rest ih => exact Nat.le_trans (step_position_le watch event) (ih (watch.step event))

theorem run_of_released (hsession : watch.cursor.session = none) (events : List Event) :
    (watch.run events).cursor.session = none ∧
      (watch.run events).cursor.position = watch.cursor.position := by
  induction events generalizing watch with
  | nil => exact ⟨hsession, rfl⟩
  | cons event rest ih =>
    have hstep : (watch.step event).cursor.session = none ∧
        (watch.step event).cursor.position = watch.cursor.position := by
      by_cases hnext : event = .next
      · subst hnext
        obtain ⟨hreleased, hposition, -⟩ :=
          (next_next watch.store watch.cursor).of_released hsession
        exact ⟨hreleased, hposition⟩
      · rw [(step_of_ne_next watch hnext).1]
        exact ⟨hsession, rfl⟩
    obtain ⟨hreleased, hposition⟩ := ih hstep.1
    exact ⟨hreleased, hposition.trans hstep.2⟩

/-- After the end a cursor answers with the end only. -/
theorem run_of_ended (hsession : watch.cursor.session = none) (hbuffer : watch.cursor.buffer = [])
    (events : List Event) : (watch.run events).cursor = watch.cursor ∧
      ∃ count, (watch.run events).answers = watch.answers ++ List.replicate count (.ok none) := by
  induction events generalizing watch with
  | nil => exact ⟨rfl, 0, (List.append_nil _).symm⟩
  | cons event rest ih =>
    by_cases hnext : event = .next
    · subst hnext
      obtain ⟨hresult, hstate⟩ := (next_next watch.store watch.cursor).of_ended hbuffer hsession
      have hcursor : (watch.step .next).cursor = watch.cursor := hstate
      have hanswers : (watch.step .next).answers = watch.answers ++ [.ok none] := by
        rw [← hresult]
        rfl
      rw [← hcursor] at hsession hbuffer
      obtain ⟨hlast, count, hcount⟩ := ih hsession hbuffer
      refine ⟨hlast.trans hcursor, count + 1, ?_⟩
      show ((watch.step .next).run rest).answers = _
      rw [hcount, hanswers, List.append_assoc]
      rfl
    · obtain ⟨hcursor, hanswers, -⟩ := step_of_ne_next watch hnext
      rw [← hcursor] at hsession hbuffer
      obtain ⟨hlast, count, hcount⟩ := ih hsession hbuffer
      refine ⟨hlast.trans hcursor, count, ?_⟩
      show ((watch.step event).run rest).answers = _
      rw [hcount, hanswers]

end DocStore.Proofs.Store.Watching
