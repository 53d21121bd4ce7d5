import DocStore.Proofs.Store.Paging

/-!
# Batches and single results

A batch is taken by calls of `next`. If one of them fails the batch fails, and what it has taken is
lost. This happens where the session is gone and the batch asks for more than the buffer holds;
everywhere else batches that there is room for deliver what single calls yield.
-/
namespace DocStore.Proofs.Store.Delivery

open Advance Paging Watching

/-- Calls of `next` one after the other, each with the store as it is then. -/
def nexts : List Store → Cursor → Cursor × List (Except Error (Option Json))
  | [], cursor => (cursor, [])
  | store :: rest, cursor =>
    let outcome := cursor.next store
    let (last, answers) := nexts rest outcome.state
    (last, outcome.result :: answers)

/-- A call of `nextBatch` on a cursor, with the store as it is then. -/
structure Call where
  memory : Memory
  store : Store
  max : Nat
  cursor : Cursor

/-- What a batch takes from a cursor, told from its answer: the documents, or the buffer if it
fails. -/
def takenFrom (cursor : Cursor) : Except Error (List Json) → List Json
  | .ok documents => documents
  | .error _ => cursor.buffer

namespace Call

def outcome (call : Call) : Outcome Cursor (List Json) :=
  call.cursor.nextBatch call.memory call.store call.max

/-- There is room for the batch. -/
def Fits (call : Call) : Prop := call.max ≤ call.memory.capacity

/-- The batch, or nothing if the call fails. -/
def batch (call : Call) : List Json :=
  match call.outcome.result with
  | .ok documents => documents
  | .error _ => []

def taken (call : Call) : List Json := takenFrom call.cursor call.outcome.result

end Call

/-- Calls of `nextBatch` one after the other, each with a store and a size. -/
def calls (memory : Memory) : List (Store × Nat) → Cursor → List Call
  | [], _ => []
  | (store, max) :: rest, cursor =>
    let call : Call := ⟨memory, store, max, cursor⟩
    call :: calls memory rest call.outcome.state

/-- The documents of the batches that did not fail. -/
def delivered (calls : List Call) : List Json := calls.flatMap Call.batch

/-- The cursor has still to read a session that the store does not run. -/
def Detached (store : Store) (cursor : Cursor) : Prop :=
  cursor.session ≠ none ∧ cursor.liveSession? store = none

variable {store : Store} {cursor after : Cursor} {result : Except Error (Option Json)}

/-! ## Calls that fail -/

theorem next_of_error (h : Next store cursor result after) {error : Error}
    (herror : result = .error error) :
    cursor.buffer = [] ∧ Detached store cursor ∧ after.session = none ∧ after.buffer = [] := by
  cases h with
  | popped | ended | fetched => cases herror
  | gone hbuffer hopen hlive => exact ⟨hbuffer, ⟨hopen, hlive⟩, rfl, hbuffer⟩

/-- What a cursor that is detached afterwards has given was in the buffer. -/
theorem next_of_detached (h : Next store cursor result after) {first : Json}
    (hsome : result = .ok (some first)) (hdetached : Detached store after) :
    Detached store cursor ∧ cursor.buffer = first :: after.buffer := by
  obtain ⟨hopen, hlive⟩ := hdetached
  cases h with
  | popped hbuffer =>
    obtain rfl := Option.some.inj (Except.ok.inj hsome)
    exact ⟨⟨hopen, hlive⟩, hbuffer⟩
  | ended => cases hsome
  | @fetched session _ hsession hnumber =>
    -- A page is fetched from the session that the store runs, and no other one is kept.
    rcases turned_session session cursor with hreleased | hkept
    · exact absurd hreleased hopen
    · rw [hnumber] at hkept
      rw [liveSession?_eq_some_iff.2 ⟨hsession, hkept⟩] at hlive
      cases hlive
  | gone => cases hsome

theorem nexts_of_ended (hsession : cursor.session = none) (hbuffer : cursor.buffer = [])
    (stores : List Store) :
    (nexts stores cursor).1 = cursor ∧ yielded (nexts stores cursor).2 = [] := by
  induction stores with
  | nil => exact ⟨rfl, rfl⟩
  | cons store rest ih =>
    obtain ⟨hresult, hstate⟩ := (next_next store cursor).of_ended hbuffer hsession
    simp only [nexts, hresult, hstate]
    exact ih

theorem nexts_append (stores more : List Store) (cursor : Cursor) :
    nexts (stores ++ more) cursor =
      ((nexts more (nexts stores cursor).1).1,
        (nexts stores cursor).2 ++ (nexts more (nexts stores cursor).1).2) := by
  induction stores generalizing cursor with
  | nil => rfl
  | cons store rest ih => simp only [List.cons_append, nexts, ih]

/-! ## One batch against as many single calls -/

theorem gather_of_error {error : Error} (h : (cursor.next store).result = .error error)
    (max : Nat) : (cursor.gather store (max + 1)).result = .error error ∧
      (cursor.gather store (max + 1)).state = (cursor.next store).state := by
  simp [Cursor.gather, h]

theorem gather_of_none (h : (cursor.next store).result = .ok none) (max : Nat) :
    (cursor.gather store (max + 1)).result = .ok [] ∧
      (cursor.gather store (max + 1)).state = (cursor.next store).state := by
  simp [Cursor.gather, h]

theorem gather_of_some {document : Json} (h : (cursor.next store).result = .ok (some document))
    (max : Nat) : (cursor.gather store (max + 1)).result =
        ((cursor.next store).state.gather store max).result.map (document :: ·) ∧
      (cursor.gather store (max + 1)).state =
        ((cursor.next store).state.gather store max).state := by
  simp [Cursor.gather, h]

/-- A batch fails only on a detached cursor. The single calls leave the same cursor, and they take
what the batch takes, or the whole buffer if it fails. -/
theorem nexts_replicate (store : Store) (max : Nat) (cursor : Cursor) :
    (nexts (List.replicate max store) cursor).1 = (cursor.gather store max).state ∧
    yielded (nexts (List.replicate max store) cursor).2 =
      takenFrom cursor (cursor.gather store max).result ∧
    ∀ error, (cursor.gather store max).result = .error error → Detached store cursor := by
  induction max generalizing cursor with
  | zero =>
    refine ⟨rfl, rfl, ?_⟩
    intro error herror
    cases herror
  | succ max ih =>
    have hnext := next_next store cursor
    cases hresult : (cursor.next store).result with
    | error error =>
      obtain ⟨hempty, hdetached, hsession, hbuffer⟩ := next_of_error hnext hresult
      obtain ⟨hlast, hyielded⟩ := nexts_of_ended hsession hbuffer (List.replicate max store)
      obtain ⟨hfailed, hstate⟩ := gather_of_error hresult max
      refine ⟨hlast.trans hstate.symm, ?_, fun _ _ => hdetached⟩
      rw [hfailed, takenFrom, hempty]
      simp only [List.replicate_succ, nexts, hresult]
      exact hyielded
    | ok first =>
      cases first with
      | none =>
        obtain ⟨hsession, hbuffer⟩ := hnext.of_none hresult
        obtain ⟨hlast, hyielded⟩ := nexts_of_ended hsession hbuffer (List.replicate max store)
        obtain ⟨hbatch, hstate⟩ := gather_of_none hresult max
        rw [hbatch]
        refine ⟨hlast.trans hstate.symm, ?_, ?_⟩
        · simp only [List.replicate_succ, nexts, hresult]
          exact hyielded
        · intro error herror
          cases herror
      | some document =>
        obtain ⟨hlast, hyielded, hfails⟩ := ih (cursor.next store).state
        obtain ⟨hbatch, hstate⟩ := gather_of_some hresult max
        have hfirst : yielded (nexts (List.replicate (max + 1) store) cursor).2 =
            document :: yielded (nexts (List.replicate max store) (cursor.next store).state).2 := by
          simp [List.replicate_succ, nexts, hresult, yielded]
        rw [hfirst, hyielded, hbatch]
        cases hmore : ((cursor.next store).state.gather store max).result with
        | ok documents =>
          refine ⟨hlast.trans hstate.symm, rfl, ?_⟩
          intro error herror
          cases herror
        | error error =>
          obtain ⟨hdetached, hbuffer⟩ := next_of_detached hnext hresult (hfails error hmore)
          exact ⟨hlast.trans hstate.symm, hbuffer.symm, fun _ _ => hdetached⟩

/-- A detached cursor fills a batch from its buffer, or fails. -/
theorem gather_of_detached (h : Detached store cursor) (max : Nat) :
    (cursor.gather store max).result =
      if max ≤ cursor.buffer.length then .ok (cursor.buffer.take max) else .error .notStarted := by
  induction max generalizing cursor with
  | zero => rfl
  | succ max ih =>
    cases hbuffer : cursor.buffer with
    | nil =>
      have hresult := (next_next store cursor).of_gone hbuffer h.1 h.2
      rw [(gather_of_error hresult max).1]
      rfl
    | cons first rest =>
      have hnext := next_of_cons store hbuffer
      have hresult : (cursor.next store).result = .ok (some first) := by rw [hnext]
      have hrest : Detached store { cursor with buffer := rest } := h
      rw [(gather_of_some hresult max).1, hnext, ih hrest, List.length_cons]
      by_cases hmax : max ≤ rest.length
      · rw [if_pos hmax, if_pos (Nat.succ_le_succ hmax)]
        rfl
      · rw [if_neg hmax, if_neg (fun hle => hmax (Nat.le_of_succ_le_succ hle))]
        rfl

/-! ## Whole runs -/

namespace Call

theorem Fits.outcome_eq {call : Call} (h : call.Fits) :
    call.outcome = call.cursor.gather call.store call.max :=
  Cursor.nextBatch_of_le h call.store call.cursor

/-- The call asks for more than the buffer holds, and the buffer is all there is. -/
def Loses (call : Call) : Prop :=
  Detached call.store call.cursor ∧ call.cursor.buffer ≠ [] ∧
    call.cursor.buffer.length < call.max

theorem batch_eq_taken_iff {call : Call} (hfits : call.Fits) :
    call.batch = call.taken ↔ ¬ call.Loses := by
  have houtcome := hfits.outcome_eq
  cases hresult : call.outcome.result with
  | ok documents =>
    have hkept : ¬ call.Loses := by
      rintro ⟨hdetached, -, hlt⟩
      have hfailed := gather_of_detached hdetached call.max
      rw [if_neg (Nat.not_le.2 hlt)] at hfailed
      rw [houtcome, hfailed] at hresult
      cases hresult
    simp [batch, taken, takenFrom, hresult, hkept]
  | error error =>
    have hfails := hresult
    rw [houtcome] at hfails
    have hdetached := (nexts_replicate call.store call.max call.cursor).2.2 error hfails
    have hlt : call.cursor.buffer.length < call.max := by
      by_contra hle
      have hfilled := gather_of_detached hdetached call.max
      rw [if_pos (Nat.not_lt.1 hle)] at hfilled
      rw [hfilled] at hfails
      cases hfails
    simp [batch, taken, takenFrom, hresult, Loses, hdetached, hlt, eq_comm]

theorem length_batch_le (call : Call) : call.batch.length ≤ call.taken.length := by
  cases hresult : call.outcome.result <;> simp [batch, taken, takenFrom, hresult]

end Call

theorem length_delivered_le (made : List Call) :
    (delivered made).length ≤ (made.flatMap Call.taken).length := by
  induction made with
  | nil => exact Nat.le_refl _
  | cons call rest ih =>
    have hhead := call.length_batch_le
    simp only [delivered, List.flatMap_cons, List.length_append] at ih ⊢
    omega

theorem delivered_eq_taken_iff {made : List Call} (hfits : ∀ call ∈ made, call.Fits) :
    delivered made = made.flatMap Call.taken ↔ ∀ call ∈ made, ¬ call.Loses := by
  induction made with
  | nil => simp [delivered]
  | cons call rest ih =>
    obtain ⟨hfirst, hlater⟩ := List.forall_mem_cons.1 hfits
    have hsplit : delivered (call :: rest) = call.batch ++ delivered rest := rfl
    rw [hsplit, List.flatMap_cons, List.forall_mem_cons, ← ih hlater,
      ← Call.batch_eq_taken_iff hfirst]
    constructor
    · -- A loss in one place cannot be made up for in another.
      intro happend
      have hlength := congrArg List.length happend
      rw [List.length_append, List.length_append] at hlength
      have hhead := call.length_batch_le
      have hrest := length_delivered_le rest
      exact List.append_inj happend (by omega)
    · rintro ⟨hhead, hrest⟩
      rw [hhead, hrest]

/-- Single calls as many as the batches ask for, each with the store of its batch. -/
def singles (schedule : List (Store × Nat)) : List Store :=
  schedule.flatMap fun call => List.replicate call.2 call.1

/-- There is room for each batch of a schedule. -/
def AllFit (memory : Memory) (schedule : List (Store × Nat)) : Prop :=
  ∀ call ∈ schedule, call.2 ≤ memory.capacity

variable {memory : Memory} {schedule : List (Store × Nat)}

theorem fits_of_mem_calls (h : AllFit memory schedule) (cursor : Cursor) :
    ∀ call ∈ calls memory schedule cursor, call.Fits := by
  induction schedule generalizing cursor with
  | nil => exact List.forall_mem_nil _
  | cons first rest ih =>
    obtain ⟨hfirst, hrest⟩ := List.forall_mem_cons.1 h
    exact List.forall_mem_cons.2 ⟨hfirst, ih hrest _⟩

theorem yielded_nexts_singles (h : AllFit memory schedule) (cursor : Cursor) :
    yielded (nexts (singles schedule) cursor).2 =
      (calls memory schedule cursor).flatMap Call.taken := by
  induction schedule generalizing cursor with
  | nil => rfl
  | cons first rest ih =>
    obtain ⟨store, max⟩ := first
    obtain ⟨hfirst, hrest⟩ := List.forall_mem_cons.1 h
    obtain ⟨hstate, htaken, -⟩ := nexts_replicate store max cursor
    have hfits : (Call.mk memory store max cursor).Fits := hfirst
    have hsingles : singles ((store, max) :: rest) = List.replicate max store ++ singles rest := rfl
    rw [hsingles, nexts_append, hstate]
    show yielded (_ ++ _) = _
    rw [yielded_append, htaken, ih hrest, calls, List.flatMap_cons, Call.taken, hfits.outcome_eq]

/-- Batches that there is room for deliver exactly what single calls yield, with the store in the
same state at the same point, as long as no batch asks a cursor whose session was stopped for more
than is left in the buffer. Such a batch fails, and the documents in the buffer are lost with it. A
batch that there is no room for is a panic, however little is left, and takes nothing. -/
theorem delivered_eq_iff (memory : Memory) (schedule : List (Store × Nat)) (cursor : Cursor) :
    (AllFit memory schedule →
      (delivered (calls memory schedule cursor) = yielded (nexts (singles schedule) cursor).2 ↔
        ∀ call ∈ calls memory schedule cursor, ¬ call.Loses)) ∧
    ∀ store max, memory.capacity < max →
      (cursor.nextBatch memory store max).result = .error .capacityOverflow ∧
        (cursor.nextBatch memory store max).state = cursor := by
  constructor
  · intro hfits
    rw [yielded_nexts_singles hfits]
    exact delivered_eq_taken_iff (fits_of_mem_calls hfits cursor)
  · intro store max hlarge
    rw [Cursor.nextBatch_of_lt hlarge]
    exact ⟨rfl, rfl⟩

/-! ## A session that is stopped over a full buffer -/

/-- Two of three visits are on the first page. After the stop, single calls still give the second
one, but a batch of two takes it, fails and drops it. A batch of the greatest size delivers nothing
before the stop either, where `next` has the first visit to give. -/
theorem second_visit_lost :
    let store := (hotel.insertMany visits (List.replicate 3 (.obj []))).state
    let schedule := [(store, 1), (store.stop.state, 2), (store.stop.state, 2)]
    (store.aggregate visits everyVisit).result = .ok (visitCursor everyVisit) ∧
    (nexts (singles schedule) (visitCursor everyVisit)).2 =
      [.ok (some (visit 1 [])), .ok (some (visit 2 [])), .error .notStarted, .ok none,
        .ok none] ∧
    AllFit .standard schedule ∧
    (calls .standard schedule (visitCursor everyVisit)).map (·.outcome.result) =
      [.ok [visit 1 []], .error .notStarted, .ok []] ∧
    delivered (calls .standard schedule (visitCursor everyVisit)) ≠
      yielded (nexts (singles schedule) (visitCursor everyVisit)).2 ∧
    ((visitCursor everyVisit).nextBatch .standard store (UInt64.size - 1)).result =
      .error .capacityOverflow ∧
    ((visitCursor everyVisit).next store).result = .ok (some (visit 1 [])) := by
  intro store schedule
  have hdelivered : delivered (calls .standard schedule (visitCursor everyVisit)) =
      [visit 1 []] := by rfl
  have hyielded : yielded (nexts (singles schedule) (visitCursor everyVisit)).2 =
      [visit 1 [], visit 2 []] := by rfl
  have hfit : AllFit .standard schedule := by
    simp [AllFit, schedule, Memory.standard, UInt64.size]
  refine ⟨by rfl, by rfl, hfit, by rfl, ?_, ?_, by rfl⟩
  · rw [hdelivered, hyielded]
    simp
  · rw [Cursor.nextBatch_of_lt Memory.standard.capacity_lt_greatest]

end DocStore.Proofs.Store.Delivery
