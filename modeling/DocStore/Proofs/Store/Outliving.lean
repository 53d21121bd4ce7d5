import DocStore.Proofs.Store.Delivery
import Mathlib.Data.List.TakeDrop

/-!
# Cursors that outlive their session

When the store is stopped, all that a cursor will ever answer is settled: what is in its buffer, one
error unless it has been at the end of its collection, and then the end. Sessions that are opened
later have other numbers, so nothing that happens in them comes through.
-/
namespace DocStore.Proofs.Store.Outliving

open Advance Batch Draining Life Paging Watching
open Delivery (gather_of_none gather_of_some)

/-! ## Until the stop -/

/-- A call on a store that runs or on a cursor of it. Calls on other cursors change neither. -/
inductive Call where
  | next
  | nextBatch (memory : Memory) (max : Nat)
  | insertMany (name : CollectionName) (batch : List Json)
  | start (name label : String)

/-- Whether the cursor is asked for results. A batch that there is no room for panics before. -/
def Call.asks : Call → Bool
  | .next => true
  | .nextBatch memory max => 0 < max && max ≤ memory.capacity
  | .insertMany _ _ | .start _ _ => false

/-- A store and a cursor at one moment. -/
structure Moment where
  store : Store
  cursor : Cursor

namespace Moment

def step (moment : Moment) : Call → Moment
  | .next => { moment with cursor := (moment.cursor.next moment.store).state }
  | .nextBatch memory max =>
    { moment with cursor := (moment.cursor.nextBatch memory moment.store max).state }
  | .insertMany name batch => { moment with store := (moment.store.insertMany name batch).state }
  | .start name label => { moment with store := (moment.store.start name label).state }

def run (moment : Moment) (calls : List Call) : Moment := calls.foldl step moment

/-- The cursor has looked at all documents that its collection has. -/
def atEnd (moment : Moment) : Bool :=
  (documentsIn moment.store moment.cursor.collection).length ≤ moment.cursor.position

/-- Whether one of the calls has asked for results and come to the end of the collection, as it was
then. -/
def reachesEnd (moment : Moment) : List Call → Bool
  | [] => false
  | call :: rest =>
    call.asks && (moment.step call).atEnd || (moment.step call).reachesEnd rest

end Moment

/-- The session of the cursor runs. If the cursor holds on to it after a page, there are documents
behind that page. -/
structure Reading (store : Store) (session : Session) (cursor : Cursor) : Prop
    extends Live store session cursor where
  behind : cursor.session ≠ none → cursor.buffer ≠ [] →
    cursor.position < (session.documents cursor.collection).length

/-- What calls that ask for results make of a cursor; `asked` is whether there are any. -/
structure Moved (session : Session) (asked : Prop) (cursor after : Cursor) : Prop where
  collection_eq : after.collection = cursor.collection
  position_le : cursor.position ≤ after.position
  released_iff : after.session = none ↔
    cursor.session = none ∨ asked ∧ (session.documents cursor.collection).length ≤ after.position

variable {store : Store} {session : Session} {cursor after : Cursor}
variable {result : Except Error (Option Json)} {moment : Moment}

theorem Reading.next (h : Reading store session cursor) (hnext : Next store cursor result after) :
    Reading store session after ∧ Moved session True cursor after := by
  have hreleased : after.session = none → cursor.session = none ∨
      True ∧ (session.documents cursor.collection).length ≤ after.position := fun hnone =>
    (next_released h.toLive hnext hnone).imp_right fun hend => ⟨trivial, hend⟩
  have hmoved : (cursor.session = none ∨
      True ∧ (session.documents cursor.collection).length ≤ after.position →
        after.session = none) → Moved session True cursor after := fun hend =>
    ⟨hnext.collection_eq, hnext.position_le, hreleased, hend⟩
  cases hnext with
  | @popped first rest hbuffer =>
    have hfull : cursor.buffer ≠ [] := by simp [hbuffer]
    refine ⟨⟨⟨h.session_eq, h.reads⟩, fun hopen _ => h.behind hopen hfull⟩, hmoved ?_⟩
    rintro (hsession | ⟨-, hend⟩)
    · exact hsession
    · by_contra hopen
      exact absurd (h.behind hopen hfull) (Nat.not_lt.2 hend)
  | ended _ hsession => exact ⟨h, hmoved fun _ => hsession⟩
  | @fetched session' _ hsession hnumber =>
    obtain rfl := Option.some.inj (h.session_eq.symm.trans hsession)
    refine ⟨⟨⟨h.session_eq, ?_⟩, ?_⟩, hmoved ?_⟩
    · rcases turned_session session cursor with hnone | hkept
      · exact .inl hnone
      · exact .inr (hkept.trans hnumber)
    · intro hopen _
      by_contra hend
      exact hopen (if_pos (Nat.not_lt.1 hend))
    · rintro (hnone | ⟨-, hend⟩)
      · rw [hnumber] at hnone
        cases hnone
      · exact if_pos hend
  | gone _ hopen hnone =>
    rw [h.toLive.liveSession?_eq hopen] at hnone
    cases hnone

theorem Moved.refl (session : Session) (cursor : Cursor) : Moved session False cursor cursor :=
  ⟨rfl, Nat.le_refl _, by simp⟩

/-- Of calls that follow each other, the later ones see at least what the first one has seen. -/
theorem Moved.trans {asked : Prop} {between : Cursor} (h : Moved session True cursor between)
    (h' : Moved session asked between after) (hnone : ¬ asked → after = between) :
    Moved session True cursor after := by
  refine ⟨h'.collection_eq.trans h.collection_eq, Nat.le_trans h.position_le h'.position_le, ?_⟩
  by_cases hasked : asked
  · have hposition := h'.position_le
    rw [h'.released_iff, h.released_iff, h.collection_eq, or_assoc]
    simp only [hasked, true_and]
    exact or_congr_right (by omega)
  · rw [hnone hasked]
    exact h.released_iff

/-- A batch goes through calls of `next`, none of which fails. -/
theorem Reading.gather (h : Reading store session cursor) (max : Nat) :
    Reading store session (cursor.gather store max).state ∧
      Moved session (0 < max) cursor (cursor.gather store max).state := by
  induction max generalizing cursor with
  | zero =>
    refine ⟨h, ?_⟩
    simp only [Nat.lt_irrefl]
    exact .refl session cursor
  | succ max ih =>
    obtain ⟨hreading, hmoved⟩ := h.next (next_next store cursor)
    obtain ⟨hreading', hmoved'⟩ := ih hreading
    have hresult := (next_spec h.toLive).1
    simp only [Nat.zero_lt_succ]
    cases hfirst : (remaining session cursor).head? with
    | none =>
      rw [hfirst] at hresult
      rw [(gather_of_none hresult max).2]
      exact ⟨hreading, hmoved⟩
    | some document =>
      rw [hfirst] at hresult
      rw [(gather_of_some hresult max).2]
      refine ⟨hreading', hmoved.trans hmoved' fun hzero => ?_⟩
      obtain rfl : max = 0 := by omega
      rfl

theorem asks_nextBatch_iff {memory : Memory} {max : Nat} :
    (Call.nextBatch memory max).asks = true ↔ 0 < max ∧ max ≤ memory.capacity := by
  simp [Call.asks]

theorem Reading.nextBatch (h : Reading store session cursor) (memory : Memory) (max : Nat) :
    Reading store session (cursor.nextBatch memory store max).state ∧
      Moved session ((Call.nextBatch memory max).asks = true) cursor
        (cursor.nextBatch memory store max).state := by
  rw [asks_nextBatch_iff]
  by_cases hfits : max ≤ memory.capacity
  · rw [Cursor.nextBatch_of_le hfits]
    simp only [hfits, and_true]
    exact h.gather max
  · rw [Cursor.nextBatch_of_lt (Nat.not_le.1 hfits)]
    simp only [hfits, and_false]
    exact ⟨h, .refl session cursor⟩

theorem Reading.grow {store' : Store} {session' : Session} (h : Reading store session cursor)
    (hstore : store'.session = some session') (hextends : Extends session session') :
    Reading store' session' cursor := by
  refine ⟨⟨hstore, ?_⟩, fun hopen hbuffer => ?_⟩
  · rw [hextends.number_eq]
    exact h.reads
  · exact Nat.lt_of_lt_of_le (h.behind hopen hbuffer)
      (hextends.documents_prefix cursor.collection).length_le

theorem aggregate_reading {name : CollectionName} {pipeline : Pipeline}
    (h : (store.aggregate name pipeline).result = .ok cursor) :
    cursor.session ≠ none ∧ ∃ session, Reading store session cursor := by
  obtain ⟨session, hsession, -, rfl⟩ := aggregate_eq_ok h
  refine ⟨nofun, session, ⟨hsession, .inr rfl⟩, ?_⟩
  intro _ hfull
  exact absurd rfl hfull

/-- No call takes documents away. -/
theorem step_extends (hsession : moment.store.session = some session) (call : Call) :
    ∃ session', (moment.step call).store.session = some session' ∧ Extends session session' := by
  cases call with
  | next | nextBatch => exact ⟨session, hsession, .refl session⟩
  | insertMany name batch =>
    exact @step_store (.begun moment.store moment.cursor []) (.insertMany name batch) session
      hsession nofun
  | start name label =>
    exact @step_store (.begun moment.store moment.cursor []) (.start name label) session
      hsession nofun

/-- One call before the stop: the cursor lets go exactly where it comes to the end. -/
theorem step_reading (h : Reading moment.store session moment.cursor) (call : Call) :
    (∃ session', Reading (moment.step call).store session' (moment.step call).cursor) ∧
    ((moment.step call).cursor.session = none ↔
      moment.cursor.session = none ∨ (call.asks && (moment.step call).atEnd) = true) := by
  have hasked : ∀ {asked : Prop} {after : Cursor}, Reading moment.store session after →
      Moved session asked moment.cursor after →
      (after.session = none ↔ moment.cursor.session = none ∨
        asked ∧ (Moment.mk moment.store after).atEnd = true) := by
    intro asked after hafter hmoved
    rw [hmoved.released_iff, Moment.atEnd, documentsIn_eq h.session_eq, hmoved.collection_eq,
      decide_eq_true_iff]
  cases call with
  | next =>
    obtain ⟨hreading, hmoved⟩ := h.next (next_next moment.store moment.cursor)
    have hreleased := hasked hreading hmoved
    rw [true_and] at hreleased
    exact ⟨⟨session, hreading⟩, hreleased⟩
  | nextBatch memory max =>
    obtain ⟨hreading, hmoved⟩ := h.nextBatch memory max
    have hreleased := hasked hreading hmoved
    rw [← Bool.and_eq_true] at hreleased
    exact ⟨⟨session, hreading⟩, hreleased⟩
  | insertMany name batch =>
    obtain ⟨session', hsession, hextends⟩ := step_extends h.session_eq (.insertMany name batch)
    refine ⟨⟨session', h.grow hsession hextends⟩, ?_⟩
    simp [Call.asks, Moment.step]
  | start name label =>
    obtain ⟨session', hsession, hextends⟩ := step_extends h.session_eq (.start name label)
    refine ⟨⟨session', h.grow hsession hextends⟩, ?_⟩
    simp [Call.asks, Moment.step]

theorem run_reading (moment : Moment) (h : Reading moment.store session moment.cursor)
    (calls : List Call) :
    (∃ session', Reading (moment.run calls).store session' (moment.run calls).cursor) ∧
    ((moment.run calls).cursor.session = none ↔
      moment.cursor.session = none ∨ moment.reachesEnd calls = true) := by
  induction calls generalizing moment session with
  | nil => exact ⟨⟨session, h⟩, by simp [Moment.run, Moment.reachesEnd]⟩
  | cons call rest ih =>
    obtain ⟨⟨session', hreading⟩, hreleased⟩ := step_reading h call
    obtain ⟨hreading', hreleased'⟩ := ih (moment.step call) hreading
    refine ⟨hreading', ?_⟩
    show ((moment.step call).run rest).cursor.session = none ↔ _
    rw [hreleased', hreleased, Moment.reachesEnd, Bool.or_eq_true, or_assoc]

/-! ## The stop -/

theorem run_reachable (moment : Moment) (h : Reachable moment.store) (calls : List Call) :
    Reachable (moment.run calls).store := by
  induction calls generalizing moment with
  | nil => exact h
  | cons call rest ih =>
    apply ih (moment.step call)
    cases call with
    | next | nextBatch => exact h
    | insertMany name batch => exact .insertMany name batch h
    | start name label => exact .start name label h

/-- The session of the cursor is over: the store runs another one or none, and has gone past its
number. -/
def Parted (store : Store) (cursor : Cursor) : Prop :=
  ∀ number, cursor.session = some number → number ≤ store.opened ∧
    ∀ session, store.session = some session → session.number ≠ number

theorem Reading.parted (h : Reading store session cursor) (hreachable : Reachable store) :
    Parted store.stop.state cursor := by
  intro number hnumber
  refine ⟨?_, fun _ hnone => nomatch hnone⟩
  rcases h.reads with hnone | hsome
  · rw [hnone] at hnumber
    cases hnumber
  · rw [hsome] at hnumber
    obtain rfl := Option.some.inj hnumber
    exact hreachable.number_le session h.session_eq

/-! ## After the stop -/

/-- What a cursor has still to answer when its session is over. -/
def script (cursor : Cursor) : List (Except Error (Option Json)) :=
  cursor.buffer.map (.ok ∘ some) ++ if cursor.session = none then [] else [.error .notStarted]

theorem isExhausted_iff (cursor : Cursor) : cursor.isExhausted = true ↔ script cursor = [] := by
  by_cases hsession : cursor.session = none <;>
    simp [Cursor.isExhausted, script, hsession, Option.isNone_iff_eq_none]

theorem Parted.next (h : Parted store cursor) (hnext : Next store cursor result after) :
    Parted store after ∧ result = (script cursor).head?.getD (.ok none) ∧
      script after = (script cursor).tail := by
  cases hnext with
  | popped hbuffer => exact ⟨h, by simp [script, hbuffer]⟩
  | ended hbuffer hsession => exact ⟨h, by simp [script, hbuffer, hsession]⟩
  | @fetched session _ hsession hnumber => exact absurd rfl ((h _ hnumber).2 session hsession)
  | gone hbuffer hopen =>
    refine ⟨?_, by simp [script, hbuffer, hopen]⟩
    intro number hnumber
    cases hnumber

variable {watch : Watch}

/-- A session that is opened later has a number of its own. -/
theorem Parted.step (h : Parted watch.store watch.cursor) {event : Event} (hnext : event ≠ .next) :
    Parted (watch.step event).store watch.cursor := by
  cases event with
  | next => exact absurd rfl hnext
  | use => exact h
  | stop => exact fun number hnumber => ⟨(h number hnumber).1, fun _ hnone => nomatch hnone⟩
  | aggregate name pipeline =>
    simp only [Watch.step]
    split <;> exact h
  | insertMany name batch =>
    show Parted (watch.store.insertMany name batch).state watch.cursor
    rcases insertMany_cases watch.store name batch with
      ⟨_, -, hstate⟩ | ⟨before, staged, -, hbefore, -, -, hstate⟩
    · rw [hstate]
      exact h
    · rw [hstate]
      intro number hnumber
      obtain ⟨hle, hne⟩ := h number hnumber
      refine ⟨hle, fun session hsession => ?_⟩
      obtain rfl := Option.some.inj hsession
      exact hne before hbefore
  | start name label =>
    show Parted (watch.store.start name label).state watch.cursor
    rcases start_cases watch.store name label with hstate | ⟨-, hstate⟩
    · rw [hstate]
      exact h
    · rw [hstate]
      intro number hnumber
      have hle : number ≤ watch.store.opened := (h number hnumber).1
      refine ⟨Nat.le_succ_of_le hle, fun session hsession => ?_⟩
      obtain rfl := Option.some.inj hsession
      show watch.store.opened + 1 ≠ number
      omega

def isNext : Event → Bool
  | .next => true
  | _ => false

/-- How often the watched cursor is asked for its next result. -/
def asked (events : List Event) : Nat := events.countP isNext

theorem run_script (watch : Watch) (h : Parted watch.store watch.cursor) (events : List Event) :
    (watch.run events).answers =
      watch.answers ++ (script watch.cursor).takeD (asked events) (.ok none) ∧
    script (watch.run events).cursor = (script watch.cursor).drop (asked events) := by
  induction events generalizing watch with
  | nil => simp [Watch.run, asked]
  | cons event rest ih =>
    have hrun : watch.run (event :: rest) = (watch.step event).run rest := rfl
    by_cases hnext : event = .next
    · subst hnext
      obtain ⟨hparted, hresult, hscript⟩ := h.next (next_next watch.store watch.cursor)
      have hasked : asked (.next :: rest) = asked rest + 1 := List.countP_cons_of_pos rfl
      have hcursor : script (watch.step .next).cursor = (script watch.cursor).tail := hscript
      have hanswers : (watch.step .next).answers =
          watch.answers ++ [(script watch.cursor).head?.getD (.ok none)] := by
        rw [← hresult]
        rfl
      obtain ⟨hmore, hleft⟩ := ih (watch.step .next) hparted
      rw [hrun, hasked, hmore, hleft, hcursor, hanswers, List.append_assoc]
      simp
    · obtain ⟨hcursor, hanswers, -⟩ := step_of_ne_next watch hnext
      have hasked : asked (event :: rest) = asked rest := by
        cases event with
        | next => exact absurd rfl hnext
        | insertMany | start | stop | aggregate | use =>
          exact List.countP_cons_of_neg Bool.false_ne_true
      have hparted := h.step hnext
      rw [← hcursor] at hparted
      obtain ⟨hmore, hleft⟩ := ih (watch.step event) hparted
      rw [hrun, hasked, hmore, hleft, hcursor, hanswers]
      exact ⟨rfl, rfl⟩

/-- A cursor whose store is stopped answers with the documents in its buffer and then, unless it has
been at the end of its collection, with one error. After that it is exhausted and answers with the
end only. The number of calls is all that matters, whatever else happens to the store and its later
sessions. -/
theorem stopped_cursor_answers {name : CollectionName} {pipeline : Pipeline}
    (hreachable : Reachable store) (hopened : (store.aggregate name pipeline).result = .ok cursor)
    (calls : List Call) (others : List Cursor) (later : List Event) :
    let before := (Moment.mk store cursor).run calls
    let after := (Watch.begun before.store.stop.state before.cursor others).run later
    let promised : List (Except Error (Option Json)) :=
      before.cursor.buffer.map (.ok ∘ some) ++
        if (Moment.mk store cursor).reachesEnd calls then [] else [.error .notStarted]
    after.answers = promised.takeD (asked later) (.ok none) ∧
    (after.cursor.isExhausted = true ↔ promised.length ≤ asked later) := by
  intro before after promised
  obtain ⟨hopen, session, hbegun⟩ := aggregate_reading hopened
  obtain ⟨⟨session', hreading⟩, hreleased⟩ := run_reading ⟨store, cursor⟩ hbegun calls
  have hpromised : script before.cursor = promised := by
    have hend : before.cursor.session = none ↔ (Moment.mk store cursor).reachesEnd calls = true :=
      hreleased.trans (or_iff_right hopen)
    simp only [script, promised, hend]
  have hparted := hreading.parted (run_reachable ⟨store, cursor⟩ hreachable calls)
  obtain ⟨hanswers, hleft⟩ :=
    run_script (.begun before.store.stop.state before.cursor others) hparted later
  have hscript : (Watch.begun before.store.stop.state before.cursor others).cursor =
    before.cursor := rfl
  rw [hscript, hpromised] at hanswers hleft
  refine ⟨hanswers, ?_⟩
  rw [isExhausted_iff, hleft, List.drop_eq_nil_iff]

/-! ## A session that ends over a full buffer -/

/-- A new session gets a visit of its own; then it is stopped as well. -/
def nextDay : List Event :=
  [.start "db" "second", .insertMany visits [.obj [blue]], .next, .next, .stop, .next]

theorem visited_reachable : Reachable visited :=
  .insertMany visits _ (.start "db" "first" (.fresh 2 Nat.two_pos))

/-- Of three visits, the second is in the buffer at the stop and the third is not reached. -/
theorem second_visit_comes_out :
    Reachable visited ∧
    (visited.aggregate visits everyVisit).result = .ok (visitCursor everyVisit) ∧
    let before := (Moment.mk visited (visitCursor everyVisit)).run [.nextBatch .standard 1]
    let after := (Watch.begun before.store.stop.state before.cursor []).run nextDay
    after.answers = [.ok (some (visit 2 [blue])), .error .notStarted, .ok none] ∧
    after.cursor.isExhausted = true := by
  have hopened : (visited.aggregate visits everyVisit).result =
    .ok (visitCursor everyVisit) := by rfl
  obtain ⟨hanswers, hexhausted⟩ :=
    stopped_cursor_answers visited_reachable hopened [.nextBatch .standard 1] [] nextDay
  exact ⟨visited_reachable, hopened, hanswers, hexhausted.2 (by decide)⟩

end DocStore.Proofs.Store.Outliving
