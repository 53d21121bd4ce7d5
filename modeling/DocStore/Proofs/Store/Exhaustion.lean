import DocStore.Proofs.Pipeline.Apply
import DocStore.Proofs.Store.Outliving

/-!
# When a cursor says that it is exhausted

A cursor learns that nothing more comes when a page reaches the end of the collection. If the last
results fill a page and there are documents behind them that the pipeline rejects, the page does not
reach the end: everything has been yielded, and the cursor does not say so before it is asked again.
-/
namespace DocStore.Proofs.Store.Exhaustion

open Advance Draining Outliving Paging Watching

variable {store : Store} {session : Session} {cursor : Cursor} {moment : Moment}

/-- The documents that a cursor has not looked at. -/
def unseen (moment : Moment) : List Json :=
  (documentsIn moment.store moment.cursor.collection).drop moment.cursor.position

/-- What was fetched is used up and no page has reached the end, but of the documents that are left
none is accepted. -/
structure Unnoticed (start : Moment) (calls : List Call) : Prop where
  open_end : start.reachesEnd calls = false
  used_up : (start.run calls).cursor.buffer = []
  left : unseen (start.run calls) ≠ []
  rejected : ∀ document ∈ unseen (start.run calls),
    (start.run calls).cursor.pipeline.accepts document = false

/-! ## What is left -/

theorem isExhausted_eq_true_iff :
    cursor.isExhausted = true ↔ cursor.session = none ∧ cursor.buffer = [] := by
  rw [Cursor.isExhausted, Bool.and_eq_true, Option.isNone_iff_eq_none, List.isEmpty_iff]

/-- The end is the answer if the buffer is empty and no document that is left is accepted. -/
theorem next_none_iff (h : Live store session cursor) :
    (cursor.next store).result = .ok none ↔
      cursor.buffer = [] ∧ (cursor.session = none ∨
        ∀ document ∈ unseen ⟨store, cursor⟩, cursor.pipeline.accepts document = false) := by
  have hdocuments : documentsIn store cursor.collection = session.documents cursor.collection :=
    documentsIn_eq h.session_eq _
  rw [(next_spec h).1, Except.ok.injEq, List.head?_eq_none_iff, remaining, List.append_eq_nil_iff]
  refine and_congr_right fun _ => ?_
  by_cases hsession : cursor.session = none
  · simp [unread, hsession]
  · rw [unread, if_neg hsession, or_iff_right hsession, List.filterMap_eq_nil_iff, unseen,
      hdocuments]
    refine forall₂_congr fun document _ => ?_
    rw [Pipeline.Apply.apply_eq, ite_eq_right_iff]
    simp

/-! ## Documents are left until the end is reached -/

theorem atEnd_eq_false_iff : moment.atEnd = false ↔ unseen moment ≠ [] := by
  rw [Moment.atEnd, unseen, decide_eq_false_iff_not, Ne, List.drop_eq_nil_iff]

theorem step_cursor_of_not_asks {call : Call} (hasks : call.asks = false) :
    (moment.step call).cursor = moment.cursor := by
  cases call with
  | next => cases hasks
  | nextBatch memory max =>
    show (moment.cursor.nextBatch memory moment.store max).state = moment.cursor
    by_cases hfits : max ≤ memory.capacity
    · obtain rfl : max = 0 := by
        by_contra hpos
        have hasked := asks_nextBatch_iff.2 ⟨Nat.pos_of_ne_zero hpos, hfits⟩
        rw [hasks] at hasked
        cases hasked
      rw [Cursor.nextBatch_of_le hfits]
      rfl
    · rw [Cursor.nextBatch_of_lt (Nat.not_le.1 hfits)]
  | insertMany | start => rfl

theorem step_left (hsession : moment.store.session = some session) {call : Call}
    (hasks : call.asks = false) (hleft : moment.atEnd = false) :
    (moment.step call).atEnd = false := by
  obtain ⟨session', hsession', hextends⟩ := step_extends hsession call
  rw [Moment.atEnd, decide_eq_false_iff_not, Nat.not_le] at hleft ⊢
  rw [documentsIn_eq hsession] at hleft
  rw [step_cursor_of_not_asks hasks, documentsIn_eq hsession']
  exact Nat.lt_of_lt_of_le hleft (hextends.documents_prefix moment.cursor.collection).length_le

/-- Where results were asked for and no call has come to the end, there are documents left. -/
theorem run_left (moment : Moment) (hsession : moment.store.session = some session)
    {calls : List Call} (hasked : moment.atEnd = false ∨ calls.any Call.asks = true)
    (hopen : moment.reachesEnd calls = false) : (moment.run calls).atEnd = false := by
  induction calls generalizing moment session with
  | nil => exact hasked.resolve_right Bool.false_ne_true
  | cons call rest ih =>
    rw [Moment.reachesEnd, Bool.or_eq_false_iff] at hopen
    obtain ⟨hfirst, hrest⟩ := hopen
    obtain ⟨session', hsession', -⟩ := step_extends hsession call
    refine ih (moment.step call) hsession' ?_ hrest
    cases hasks : call.asks with
    | true =>
      rw [hasks, Bool.true_and] at hfirst
      exact .inl hfirst
    | false =>
      rw [List.any_cons, hasks, Bool.false_or] at hasked
      exact hasked.imp_left (step_left hsession hasks)

/-! ## Exhausted and at the end -/

/-- A cursor that says it is exhausted answers with the end, and a cursor that answers with the end
says so from then on. When results were asked for, a cursor says that it is exhausted exactly if the
end is what it answers next, unless only rejected documents are left behind a page that was filled
by the last result. -/
theorem isExhausted_iff_next_none {name : CollectionName} {pipeline : Pipeline}
    (hopened : (store.aggregate name pipeline).result = .ok cursor) (calls : List Call)
    (hasked : calls.any Call.asks = true) :
    let now := (Moment.mk store cursor).run calls
    let next := now.cursor.next now.store
    (now.cursor.isExhausted = true → next.result = .ok none) ∧
    (next.result = .ok none → next.state.isExhausted = true) ∧
    ((now.cursor.isExhausted = true ↔ next.result = .ok none) ↔
      ¬ Unnoticed ⟨store, cursor⟩ calls) := by
  intro now next
  obtain ⟨hbegun, session, hreading⟩ := aggregate_reading hopened
  obtain ⟨⟨session', hnow⟩, hreleased⟩ := run_reading ⟨store, cursor⟩ hreading calls
  have hend : now.cursor.session = none ↔ (Moment.mk store cursor).reachesEnd calls = true :=
    hreleased.trans (or_iff_right hbegun)
  have hnone := next_none_iff hnow.toLive
  have hexhausted : now.cursor.isExhausted = true → next.result = .ok none := fun h =>
    hnone.2 ⟨(isExhausted_eq_true_iff.1 h).2, .inl (isExhausted_eq_true_iff.1 h).1⟩
  have hlater : next.result = .ok none → next.state.isExhausted = true := fun h =>
    isExhausted_eq_true_iff.2 ((next_next now.store now.cursor).of_none h)
  refine ⟨hexhausted, hlater, ?_⟩
  constructor
  · intro hiff hunnoticed
    have hnext : next.result = .ok none :=
      hnone.2 ⟨hunnoticed.used_up, .inr hunnoticed.rejected⟩
    have hsession := (isExhausted_eq_true_iff.1 (hiff.2 hnext)).1
    rw [hend, hunnoticed.open_end] at hsession
    cases hsession
  · intro hnoticed
    refine ⟨hexhausted, fun h => ?_⟩
    obtain ⟨hbuffer, hsession | hrejected⟩ := hnone.1 h
    · exact isExhausted_eq_true_iff.2 ⟨hsession, hbuffer⟩
    · by_contra hopen
      have hheld : now.cursor.session ≠ none := fun hsession =>
        hopen (isExhausted_eq_true_iff.2 ⟨hsession, hbuffer⟩)
      have hreaches : (Moment.mk store cursor).reachesEnd calls = false :=
        Bool.eq_false_iff.2 (mt hend.2 hheld)
      have hleft := run_left ⟨store, cursor⟩ hreading.session_eq (.inr hasked) hreaches
      exact hnoticed ⟨hreaches, hbuffer, atEnd_eq_false_iff.1 hleft, hrejected⟩

/-! ## Visits to the blue room -/

def red : String × Json := ("room", .str "red")

def blueVisits : Pipeline := ⟨[blue], []⟩

/-- A hotel with these visits. Its pages have two results. -/
def hotelWith (visited : List (String × Json)) : Store :=
  (hotel.insertMany visits (visited.map fun room => .obj [room])).state

/-- The last visit is one to the blue room, so the page with it reaches the end. -/
theorem blue_visit_last :
    ((hotelWith [blue, red, blue]).aggregate visits blueVisits).result =
      .ok (visitCursor blueVisits) ∧
    [Call.nextBatch .standard 2].any Call.asks = true ∧
    let now := (Moment.mk (hotelWith [blue, red, blue]) (visitCursor blueVisits)).run
      [.nextBatch .standard 2]
    now.cursor.isExhausted = true ∧ (now.cursor.next now.store).result = .ok none := by
  have hopened : ((hotelWith [blue, red, blue]).aggregate visits blueVisits).result =
    .ok (visitCursor blueVisits) := by rfl
  have hasked : [Call.nextBatch .standard 2].any Call.asks = true := by rfl
  refine ⟨hopened, hasked, ?_⟩
  intro now
  obtain ⟨-, -, hiff⟩ := isExhausted_iff_next_none hopened [.nextBatch .standard 2] hasked
  have hend : (Moment.mk (hotelWith [blue, red, blue]) (visitCursor blueVisits)).reachesEnd
    [.nextBatch .standard 2] = true := by decide
  have hexhausted : now.cursor.isExhausted = true := by rfl
  refine ⟨hexhausted, (hiff.2 ?_).1 hexhausted⟩
  rintro ⟨hopen, -⟩
  rw [hend] at hopen
  cases hopen

/-- The two visits to the blue room have been yielded, and the cursor does not say so, because there
is a visit to the red room behind them. -/
theorem red_visit_last :
    ((hotelWith [blue, blue, red]).aggregate visits blueVisits).result =
      .ok (visitCursor blueVisits) ∧
    let now := (Moment.mk (hotelWith [blue, blue, red]) (visitCursor blueVisits)).run [.next, .next]
    now.cursor.isExhausted = false ∧ (now.cursor.next now.store).result = .ok none ∧
    ¬ (now.cursor.isExhausted = true ↔ (now.cursor.next now.store).result = .ok none) := by
  refine ⟨by rfl, ?_⟩
  intro now
  have hopen : now.cursor.isExhausted = false := by rfl
  have hnone : (now.cursor.next now.store).result = .ok none := by rfl
  refine ⟨hopen, hnone, fun hiff => ?_⟩
  have hexhausted := hiff.2 hnone
  rw [hopen] at hexhausted
  cases hexhausted

end DocStore.Proofs.Store.Exhaustion
