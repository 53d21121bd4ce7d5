import DocStore.Proofs.Store.Draining

/-!
# One call of `next`

A call of `next` takes a result out of the buffer, finds the end, fetches a page, or finds that its
session is gone. The four ways are the constructors of `Next`, for a store and a cursor in any
state; what else holds of a call is read off them.
-/
namespace DocStore.Proofs.Store.Advance

open Draining

/-- The cursor after it has fetched a page and given away the first result of it. -/
def turned (session : Session) (cursor : Cursor) : Cursor :=
  { (cursor.readPage session).state with buffer := (page session cursor).2.tail }

theorem turned_session (session : Session) (cursor : Cursor) :
    (turned session cursor).session = none ∨
      (turned session cursor).session = cursor.session := by
  by_cases hend : (session.documents cursor.collection).length ≤
      cursor.position + (page session cursor).1
  · exact .inl (if_pos hend)
  · exact .inr (if_neg hend)

/-- The answers that a call of `next` can give, with the cursor after it. -/
inductive Next (store : Store) (cursor : Cursor) : Except Error (Option Json) → Cursor → Prop
  | popped {first : Json} {rest : List Json} : cursor.buffer = first :: rest →
      Next store cursor (.ok (some first)) { cursor with buffer := rest }
  | ended : cursor.buffer = [] → cursor.session = none → Next store cursor (.ok none) cursor
  | fetched {session : Session} : cursor.buffer = [] → store.session = some session →
      cursor.session = some session.number →
      Next store cursor (.ok (page session cursor).2.head?) (turned session cursor)
  | gone : cursor.buffer = [] → cursor.session ≠ none → cursor.liveSession? store = none →
      Next store cursor (.error .notStarted) { cursor with session := none }

variable {store : Store} {session : Session} {cursor : Cursor}

theorem liveSession?_eq_some_iff : cursor.liveSession? store = some session ↔
    store.session = some session ∧ cursor.session = some session.number := by
  simp [Cursor.liveSession?, Option.filter_eq_some_iff]

theorem next_of_cons (store : Store) {first : Json} {rest : List Json}
    (hbuffer : cursor.buffer = first :: rest) :
    cursor.next store =
      { result := .ok (some first), lines := [], state := { cursor with buffer := rest } } := by
  simp [Cursor.next, Cursor.pop, hbuffer]

theorem pop_eq (cursor : Cursor) :
    cursor.pop = (cursor.buffer.head?, { cursor with buffer := cursor.buffer.tail }) := by
  obtain ⟨session, collection, pipeline, position, pageSize, hpos, buffer⟩ := cursor
  cases buffer <;> rfl

theorem next_next (store : Store) (cursor : Cursor) :
    Next store cursor (cursor.next store).result (cursor.next store).state := by
  cases hbuffer : cursor.buffer with
  | cons first rest =>
    rw [next_of_cons store hbuffer]
    exact .popped hbuffer
  | nil =>
    by_cases hopen : cursor.session = none
    · have hnext : cursor.next store = { result := .ok none, lines := [], state := cursor } := by
        simp [Cursor.next, Cursor.fetch, Cursor.pop, hbuffer, hopen]
      rw [hnext]
      exact .ended hbuffer hopen
    · cases hlive : cursor.liveSession? store with
      | none =>
        have hnext : cursor.next store =
            { result := .error .notStarted
              lines := []
              state := { cursor with session := none } } := by
          simp [Cursor.next, Cursor.fetch, hbuffer, hopen, hlive]
        rw [hnext]
        exact .gone hbuffer hopen hlive
      | some session =>
        have hfetch : cursor.fetch store = cursor.readPage session := by
          simp [Cursor.fetch, hopen, hlive]
        have hread : (cursor.readPage session).result = .ok () := rfl
        have hnext : cursor.next store =
            { result := .ok (page session cursor).2.head?
              lines := (cursor.readPage session).lines
              state := turned session cursor } := by
          simp only [Cursor.next, hbuffer, List.isEmpty_nil, if_true, hfetch, hread, pop_eq]
          rfl
        obtain ⟨hsession, hnumber⟩ := liveSession?_eq_some_iff.1 hlive
        rw [hnext]
        exact .fetched hbuffer hsession hnumber

/-! ## What is read off a call -/

variable {result : Except Error (Option Json)} {after : Cursor}

theorem Next.collection_eq (h : Next store cursor result after) :
    after.collection = cursor.collection := by
  cases h <;> rfl

theorem Next.pipeline_eq (h : Next store cursor result after) :
    after.pipeline = cursor.pipeline := by
  cases h <;> rfl

theorem Next.position_le (h : Next store cursor result after) :
    cursor.position ≤ after.position := by
  cases h with
  | fetched => exact Nat.le_add_right _ _
  | popped | ended | gone => exact Nat.le_refl _

/-- A cursor that has let go of its session looks at nothing more. -/
theorem Next.of_released (h : Next store cursor result after) (hsession : cursor.session = none) :
    after.session = none ∧ after.position = cursor.position ∧ ∃ first, result = .ok first := by
  cases h with
  | popped => exact ⟨hsession, rfl, _, rfl⟩
  | ended => exact ⟨hsession, rfl, _, rfl⟩
  | fetched _ _ hnumber =>
    rw [hsession] at hnumber
    cases hnumber
  | gone _ hopen => exact absurd hsession hopen

theorem Next.of_ended (h : Next store cursor result after) (hbuffer : cursor.buffer = [])
    (hsession : cursor.session = none) : result = .ok none ∧ after = cursor := by
  cases h with
  | popped hcons =>
    rw [hbuffer] at hcons
    cases hcons
  | ended => exact ⟨rfl, rfl⟩
  | fetched _ _ hnumber =>
    rw [hsession] at hnumber
    cases hnumber
  | gone _ hopen => exact absurd hsession hopen

theorem Next.of_gone (h : Next store cursor result after) (hbuffer : cursor.buffer = [])
    (hopen : cursor.session ≠ none) (hlive : cursor.liveSession? store = none) :
    result = .error .notStarted := by
  cases h with
  | popped hcons =>
    rw [hbuffer] at hcons
    cases hcons
  | ended _ hsession => exact absurd hsession hopen
  | fetched _ hsession hnumber =>
    rw [liveSession?_eq_some_iff.2 ⟨hsession, hnumber⟩] at hlive
    cases hlive
  | gone => rfl

/-- A call finds the end only where nothing is left, in the buffer or in the collection. -/
theorem Next.of_none (h : Next store cursor result after) (hnone : result = .ok none) :
    after.session = none ∧ after.buffer = [] := by
  cases h with
  | popped => cases hnone
  | ended hbuffer hsession => exact ⟨hsession, hbuffer⟩
  | @fetched session =>
    have hhead : (page session cursor).2.head? = none := Except.ok.inj hnone
    have hempty : (page session cursor).2 = [] := List.head?_eq_none_iff.1 hhead
    refine ⟨readPage_ended hempty, ?_⟩
    show (page session cursor).2.tail = []
    rw [hempty, List.tail_nil]
  | gone => cases hnone

end DocStore.Proofs.Store.Advance
