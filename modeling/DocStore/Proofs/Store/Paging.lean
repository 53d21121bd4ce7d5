import DocStore.Proofs.Pipeline.Form
import DocStore.Proofs.Store.Watching

/-!
# Pages over a growing collection

While its session runs, a cursor has passed some documents of its collection and no others. What it
has yielded and what is in its buffer are the results of these, whatever was inserted between the
pages. `Account` says so; every call but a stop keeps it. The pipeline that runs has of several
conditions on one field the last one only, and the results are those of the given pipeline exactly
if no document that was passed shows the difference.
-/
namespace DocStore.Proofs.Store.Paging

open Advance Draining Watching
open Pipeline.Form (normal ofJson_toJson lastly lastly_of_nodup apply_normal_eq
  filterMap_lastly_eq_iff)

/-- When a store opens a cursor, and which one. -/
theorem aggregate_eq_ok_iff {store : Store} {name : CollectionName} {pipeline : Pipeline}
    {cursor : Cursor} :
    (store.aggregate name pipeline).result = .ok cursor ↔
      name.Valid ∧ DocStore.Pipeline.ofJson pipeline.toJson = .ok (normal pipeline) ∧
        ∃ session, store.session = some session ∧
          cursor = ⟨some session.number, name, normal pipeline, 0, store.pageSize,
            store.pageSize_pos, []⟩ := by
  by_cases hvalid : name.Valid
  · cases hread : DocStore.Pipeline.ofJson pipeline.toJson with
    | error fault => simp [Store.aggregate, hvalid, hread]
    | ok read =>
      obtain rfl := ofJson_toJson hread
      cases hsession : store.session with
      | none => simp [Store.aggregate, hvalid, hread, hsession]
      | some session => simp [Store.aggregate, hvalid, hread, hsession, eq_comm]
  · simp [Store.aggregate, hvalid]

theorem aggregate_eq_ok {store : Store} {name : CollectionName} {pipeline : Pipeline}
    {cursor : Cursor} (h : (store.aggregate name pipeline).result = .ok cursor) :
    ∃ session, store.session = some session ∧
      DocStore.Pipeline.ofJson pipeline.toJson = .ok (normal pipeline) ∧
      cursor = ⟨some session.number, name, normal pipeline, 0, store.pageSize, store.pageSize_pos,
        []⟩ := by
  obtain ⟨-, hread, session, hsession, hcursor⟩ := aggregate_eq_ok_iff.1 h
  exact ⟨session, hsession, hread, hcursor⟩

/-- The records of a watch agree with the documents that its cursor has passed, and the cursor lets
go of the session only when it has passed the first `count` documents. -/
structure Account (name : CollectionName) (pipeline : Pipeline) (count : Nat) (watch : Watch)
    (session : Session) : Prop where
  live : Live watch.store session watch.cursor
  collection_eq : watch.cursor.collection = name
  pipeline_eq : watch.cursor.pipeline = pipeline
  position_le : watch.cursor.position ≤ (session.documents name).length
  length_seen : watch.seen.length = watch.cursor.position
  answered : ∀ answer ∈ watch.answers, ∃ first, answer = .ok first
  results_eq : yielded watch.answers ++ watch.cursor.buffer =
    results pipeline ((session.documents name).take watch.cursor.position) watch.seen
  ended : .ok none ∈ watch.answers → watch.cursor.session = none ∧ watch.cursor.buffer = []
  count_le : count ≤ (session.documents name).length
  covered : watch.cursor.session = none → count ≤ watch.cursor.position

variable {name : CollectionName} {pipeline : Pipeline} {count : Nat} {watch : Watch}
variable {session session' : Session} {event : Event}

/-- Documents that come behind the position change nothing that is accounted for. -/
theorem Account.grow (h : Account name pipeline count watch session)
    (hextends : Extends session session') {watch' : Watch}
    (hstore : watch'.store.session = some session') (hcursor : watch'.cursor = watch.cursor)
    (hanswers : watch'.answers = watch.answers) (hseen : watch'.seen = watch.seen) :
    Account name pipeline count watch' session' := by
  obtain ⟨more, hmore⟩ := hextends.documents_prefix name
  have hlength : (session.documents name).length ≤ (session'.documents name).length :=
    (hextends.documents_prefix name).length_le
  have htake : (session'.documents name).take watch.cursor.position =
      (session.documents name).take watch.cursor.position := by
    rw [← hmore, List.take_append_of_le_length h.position_le]
  constructor
  · refine ⟨hstore, ?_⟩
    rw [hcursor, hextends.number_eq]
    exact h.live.reads
  · rw [hcursor]
    exact h.collection_eq
  · rw [hcursor]
    exact h.pipeline_eq
  · rw [hcursor]
    exact Nat.le_trans h.position_le hlength
  · rw [hseen, hcursor]
    exact h.length_seen
  · rw [hanswers]
    exact h.answered
  · rw [hanswers, hcursor, hseen, htake]
    exact h.results_eq
  · rw [hanswers, hcursor]
    exact h.ended
  · exact Nat.le_trans h.count_le hlength
  · rw [hcursor]
    exact h.covered

/-- What a call takes from the buffer or from further documents, counted exactly. -/
theorem next_results {store : Store} {cursor after : Cursor}
    {result : Except Error (Option Json)} (hlive : Live store session cursor)
    (h : Next store cursor result after) :
    ∃ first looked, result = .ok first ∧ after.position = cursor.position + looked ∧
      looked ≤ (session.documents cursor.collection).length - cursor.position ∧
      first.toList ++ after.buffer = cursor.buffer ++
        (((session.documents cursor.collection).drop cursor.position).take looked).filterMap
          (cursor.pipeline.apply session.documents) := by
  cases h with
  | @popped first rest hbuffer =>
    refine ⟨some first, 0, rfl, rfl, Nat.zero_le _, ?_⟩
    simp [hbuffer]
  | ended hbuffer _ =>
    refine ⟨none, 0, rfl, rfl, Nat.zero_le _, ?_⟩
    simp [hbuffer]
  | @fetched session' hbuffer hsession _ =>
    obtain rfl := Option.some.inj (hlive.session_eq.symm.trans hsession)
    have hlooked : (page session cursor).1 ≤
        ((session.documents cursor.collection).drop cursor.position).length :=
      Cursor.scan_seen_le _ _ _
    have hresults : (page session cursor).2 =
        (((session.documents cursor.collection).drop cursor.position).take
          (page session cursor).1).filterMap (cursor.pipeline.apply session.documents) :=
      Cursor.scan_results _ _ _
    rw [List.length_drop] at hlooked
    refine ⟨_, (page session cursor).1, rfl, rfl, hlooked, ?_⟩
    rw [← hresults, hbuffer]
    show (page session cursor).2.head?.toList ++ (page session cursor).2.tail = _
    cases (page session cursor).2 <;> rfl
  | gone _ hopen hnone =>
    rw [hlive.liveSession?_eq hopen] at hnone
    cases hnone

/-- A cursor lets go of its session only at the end of the collection. -/
theorem next_released {store : Store} {cursor after : Cursor}
    {result : Except Error (Option Json)} (hlive : Live store session cursor)
    (h : Next store cursor result after) (hreleased : after.session = none) :
    cursor.session = none ∨ (session.documents cursor.collection).length ≤ after.position := by
  cases h with
  | popped => exact .inl hreleased
  | ended _ hsession => exact .inl hsession
  | @fetched session' _ hsession hnumber =>
    obtain rfl := Option.some.inj (hlive.session_eq.symm.trans hsession)
    right
    by_contra hshort
    have hkept : (turned session cursor).session = cursor.session := if_neg hshort
    rw [hkept, hnumber] at hreleased
    cases hreleased
  | gone _ hopen hnone =>
    rw [hlive.liveSession?_eq hopen] at hnone
    cases hnone

/-- Documents that are looked at together come behind those looked at before. -/
theorem results_take_add {documents : List Json} {seen : List Session} {position looked : Nat}
    (hposition : position ≤ documents.length) (hseen : seen.length = position)
    (hlooked : looked ≤ documents.length - position) :
    results pipeline (documents.take (position + looked)) (seen ++ List.replicate looked session) =
      results pipeline (documents.take position) seen ++
        ((documents.drop position).take looked).filterMap (pipeline.apply session.documents) := by
  have hpassed : (documents.take position).length = seen.length := by
    rw [List.length_take, hseen, Nat.min_eq_left hposition]
  have hpage : ((documents.drop position).take looked).length = looked := by
    rw [List.length_take, List.length_drop, Nat.min_eq_left hlooked]
  have hbehind := results_replicate pipeline ((documents.drop position).take looked) session
  rw [hpage] at hbehind
  rw [List.take_add, results_append hpassed, hbehind]

theorem Account.next (h : Account name pipeline count watch session) :
    Account name pipeline count (watch.step .next) session := by
  have hnext := next_next watch.store watch.cursor
  have hlive : Live watch.store session (watch.step .next).cursor := (next_spec h.live).2.1
  obtain ⟨first, looked, hresult, hposition, hlooked, hresults⟩ := next_results h.live hnext
  have hcollection : (watch.step .next).cursor.collection = name :=
    hnext.collection_eq.trans h.collection_eq
  have hpipeline : (watch.step .next).cursor.pipeline = pipeline :=
    hnext.pipeline_eq.trans h.pipeline_eq
  have hplace : (watch.step .next).cursor.position = watch.cursor.position + looked := hposition
  have hanswers : (watch.step .next).answers = watch.answers ++ [.ok first] := by
    rw [← hresult]
    rfl
  have hseen : (watch.step .next).seen = watch.seen ++ List.replicate looked session := by
    simp only [Watch.step, h.live.session_eq, hposition, Nat.add_sub_cancel_left,
      Option.toList_some, List.flatMap_cons, List.flatMap_nil, List.append_nil]
  rw [h.collection_eq, h.pipeline_eq] at hresults
  rw [h.collection_eq] at hlooked
  constructor
  · exact hlive
  · exact hcollection
  · exact hpipeline
  · have hle := h.position_le
    omega
  · rw [hseen, hplace, List.length_append, List.length_replicate, h.length_seen]
  · intro answer hanswer
    rw [hanswers] at hanswer
    rcases List.mem_append.1 hanswer with hold | hnew
    · exact h.answered answer hold
    · exact ⟨first, List.mem_singleton.1 hnew⟩
  · -- The buffer is behind the answers, and the page is behind the buffer.
    have hbuffer : first.toList ++ (watch.step .next).cursor.buffer = _ := hresults
    rw [hanswers, yielded_concat, List.append_assoc, hbuffer, ← List.append_assoc, h.results_eq,
      hplace, hseen, results_take_add h.position_le h.length_seen hlooked]
  · intro hnone
    rw [hanswers] at hnone
    rcases List.mem_append.1 hnone with hold | hnew
    · obtain ⟨hsession, hbuffer⟩ := h.ended hold
      obtain ⟨-, hstate⟩ := hnext.of_ended hbuffer hsession
      have hcursor : (watch.step .next).cursor = watch.cursor := hstate
      rw [hcursor]
      exact ⟨hsession, hbuffer⟩
    · apply hnext.of_none
      rw [hresult]
      exact (List.mem_singleton.1 hnew).symm
  · exact h.count_le
  · intro hreleased
    rcases next_released h.live hnext hreleased with hbefore | hend
    · have hcovered := h.covered hbefore
      omega
    · rw [h.collection_eq] at hend
      exact Nat.le_trans h.count_le hend

theorem Account.step (h : Account name pipeline count watch session) (hstop : event ≠ .stop) :
    ∃ session', Extends session session' ∧
      Account name pipeline count (watch.step event) session' := by
  by_cases hnext : event = .next
  · subst hnext
    exact ⟨session, .refl session, h.next⟩
  · obtain ⟨session', hstore, hextends⟩ := step_store h.live.session_eq hstop
    obtain ⟨hcursor, hanswers, hseen⟩ := step_of_ne_next watch hnext
    exact ⟨session', hextends, h.grow hextends hstore hcursor hanswers hseen⟩

theorem Account.run {events : List Event} (h : Account name pipeline count watch session)
    (hstop : .stop ∉ events) :
    ∃ session', Extends session session' ∧
      Account name pipeline count (watch.run events) session' := by
  induction events generalizing watch session with
  | nil => exact ⟨session, .refl session, h⟩
  | cons event rest ih =>
    rw [List.mem_cons, not_or] at hstop
    obtain ⟨hfirst, hrest⟩ := hstop
    obtain ⟨middle, hextends, hmiddle⟩ := h.step (Ne.symm hfirst)
    obtain ⟨last, hextends', hlast⟩ := ih hmiddle hrest
    exact ⟨last, hextends.trans hextends', hlast⟩

/-- While the cursor holds on to its session, all documents that are there now are still to be
passed. -/
theorem Account.rebase (h : Account name pipeline count watch session)
    (hheld : watch.cursor.session ≠ none) :
    Account name pipeline (session.documents name).length watch session :=
  { h with
    count_le := Nat.le_refl _
    covered := fun hreleased => absurd hreleased hheld }

/-- An account is opened with the cursor. -/
theorem begun_account {store : Store} {cursor : Cursor}
    (hopened : (store.aggregate name pipeline).result = .ok cursor) (others : List Cursor) :
    ∃ session, store.session = some session ∧
      Account name cursor.pipeline (session.documents name).length
        (Watch.begun store cursor others) session := by
  obtain ⟨session, hsession, -, rfl⟩ := aggregate_eq_ok hopened
  refine ⟨session, hsession, ?_⟩
  constructor
  · exact ⟨hsession, .inr rfl⟩
  · rfl
  · rfl
  · exact Nat.zero_le _
  · rfl
  · intro answer hanswer
    cases hanswer
  · rfl
  · intro hnone
    cases hnone
  · exact Nat.le_refl _
  · intro hreleased
    cases hreleased

/-- Documents that were looked at give the same results with the last condition on each field only
if none of them meets these and misses another one. -/
theorem results_lastly_eq_iff {documents : List Json} {seen : List Session}
    (h : documents.length ≤ seen.length) :
    results (lastly pipeline) documents seen = results pipeline documents seen ↔
      ∀ document ∈ documents, (lastly pipeline).accepts document = true →
        pipeline.accepts document = true := by
  refine (filterMap_lastly_eq_iff pipeline (documents.zip seen)
    (fun pair => pair.2.documents) Prod.fst).trans ?_
  constructor
  · intro hall document hdocument
    rw [← List.map_fst_zip h] at hdocument
    obtain ⟨pair, hpair, rfl⟩ := List.mem_map.1 hdocument
    exact hall pair hpair
  · intro hall pair hpair
    exact hall pair.1 (List.of_mem_zip hpair).1

/-- At every moment of a run without a stop, what the cursor has yielded and what it holds in its
buffer are the results of the documents before its position, one after the other, each in the
session in which its page was fetched. They are what the last condition on each field and the
lookups give. The given pipeline itself gives the same exactly if no document before the position
meets the last conditions and misses an earlier one, as is sure where no field is constrained
twice. -/
theorem cursor_accounts {store : Store} {cursor : Cursor}
    (hopened : (store.aggregate name pipeline).result = .ok cursor) (others : List Cursor)
    (events : List Event) (hstop : .stop ∉ events) :
    let watch := (Watch.begun store cursor others).run events
    let passed := (documentsIn watch.store name).take watch.cursor.position
    let given := yielded watch.answers ++ watch.cursor.buffer
    given = results (lastly pipeline) passed watch.seen ∧
    (given = results pipeline passed watch.seen ↔
      ∀ document ∈ passed, (lastly pipeline).accepts document = true →
        pipeline.accepts document = true) ∧
    ((pipeline.conditions.map (·.1)).Nodup → lastly pipeline = pipeline) ∧
    watch.seen.length = watch.cursor.position ∧
    watch.cursor.position ≤ (documentsIn watch.store name).length ∧
    (∀ more, watch.cursor.position ≤ (watch.run more).cursor.position) ∧
    (∀ answer ∈ watch.answers, ∃ first, answer = .ok first) ∧
    (.ok none ∈ watch.answers →
      (documentsIn store name).length ≤ watch.cursor.position ∧
      ∀ more, ∃ later,
        (watch.run more).answers = watch.answers ++ List.replicate later (.ok none)) := by
  intro watch passed given
  obtain ⟨_, _, -, hcursor⟩ := aggregate_eq_ok hopened
  have hpipeline : cursor.pipeline = normal pipeline := by rw [hcursor]
  obtain ⟨opening, hopening, hbegun⟩ := begun_account hopened others
  obtain ⟨session, -, haccount⟩ := hbegun.run hstop
  have hdocuments := documentsIn_eq haccount.live.session_eq name
  have hgiven : given = results (lastly pipeline) passed watch.seen := by
    have hresults := haccount.results_eq
    rw [hpipeline, ← hdocuments] at hresults
    unfold results at hresults
    rw [apply_normal_eq] at hresults
    exact hresults
  have hpassed : passed.length ≤ watch.seen.length := by
    rw [haccount.length_seen]
    exact List.length_take_le _ _
  refine ⟨hgiven, ?_, lastly_of_nodup, haccount.length_seen, ?_, run_position_le watch,
    haccount.answered, ?_⟩
  · rw [hgiven]
    exact results_lastly_eq_iff hpassed
  · rw [hdocuments]
    exact haccount.position_le
  · intro hnone
    obtain ⟨hreleased, hbuffer⟩ := haccount.ended hnone
    rw [documentsIn_eq hopening]
    exact ⟨haccount.covered hreleased, fun more => (run_of_ended hreleased hbuffer more).2⟩

/-! ## Rooms that come between two pages -/

def visits : CollectionName := ⟨"visits"⟩

def rooms : CollectionName := ⟨"rooms"⟩

def visit (id : UInt64) (more : List (String × Json)) : Json :=
  .obj (("_id", (DocumentId.int id.toInt64).toJson) :: more)

/-- A store with pages of two documents. -/
def hotel : Store := (Store.start "db" "first" ⟨none, 0, 2, Nat.two_pos⟩).state

def blue : String × Json := ("room", .str "blue")

/-- Three visits to a room. -/
def visited : Store := (hotel.insertMany visits (List.replicate 3 (.obj [blue]))).state

def everyVisit : Pipeline := ⟨[], []⟩

def withRooms : Pipeline := ⟨[], [⟨rooms, "room", "name", "rooms"⟩]⟩

def visitCursor (pipeline : Pipeline) : Cursor :=
  ⟨some 1, visits, pipeline, 0, 2, Nat.two_pos, []⟩

/-- The room becomes known after the first page, while another cursor is at work. -/
def arrivals : List Event :=
  [.next, .aggregate visits withRooms, .insertMany rooms [.obj [("name", .str "blue")]], .next,
    .use 0 .next, .insertMany visits [.obj []], .next, .next, .next]

theorem rooms_account :
    (visited.aggregate visits withRooms).result = .ok (visitCursor withRooms) ∧
    .stop ∉ arrivals ∧
    let watch := (Watch.begun visited (visitCursor withRooms) []).run arrivals
    watch.answers =
      [.ok (some (visit 1 [blue, ("rooms", .arr [])])),
        .ok (some (visit 2 [blue, ("rooms", .arr [])])),
        .ok (some (visit 3 [blue, ("rooms", .arr [visit 1 [("name", .str "blue")]])])),
        .ok (some (visit 4 [("rooms", .arr [])])), .ok none] ∧
    yielded watch.answers ++ watch.cursor.buffer =
      results withRooms ((documentsIn watch.store visits).take watch.cursor.position)
        watch.seen := by
  have hopened : (visited.aggregate visits withRooms).result = .ok (visitCursor withRooms) := by rfl
  have hstop : .stop ∉ arrivals := by simp [arrivals]
  obtain ⟨-, hiff, hnodup, -⟩ := cursor_accounts hopened [] arrivals hstop
  have hlastly : lastly withRooms = withRooms := hnodup List.nodup_nil
  refine ⟨hopened, hstop, by rfl, hiff.2 fun document _ haccepted => ?_⟩
  rwa [hlastly] at haccepted

/-! ## Two conditions on one field -/

/-- A visit to several rooms. -/
def stay (rooms : List String) : Json := .obj [("rooms", .arr (rooms.map .str))]

/-- A visit to both rooms, and one to the red room only. -/
def stays : Store :=
  (hotel.insertMany visits [stay ["blue", "red"], stay ["red"]]).state

/-- Visits to both rooms, with the conditions in this order. -/
def toBoth (first second : String) : Pipeline :=
  ⟨[("rooms", .str first), ("rooms", .str second)], []⟩

def lastRoom (room : String) : Cursor := visitCursor ⟨[("rooms", .str room)], []⟩

/-- After one call the cursor has passed both visits. It has yielded the first one and holds the
second one, which was not in the blue room. -/
theorem red_visit_held :
    (stays.aggregate visits (toBoth "blue" "red")).result = .ok (lastRoom "red") ∧
    .stop ∉ [Event.next] ∧
    let watch := (Watch.begun stays (lastRoom "red") []).run [.next]
    watch.answers = [.ok (some (visit 1 [("rooms", .arr [.str "blue", .str "red"])]))] ∧
    watch.cursor.buffer = [visit 2 [("rooms", .arr [.str "red"])]] ∧
    results (toBoth "blue" "red") ((documentsIn watch.store visits).take watch.cursor.position)
      watch.seen = [visit 1 [("rooms", .arr [.str "blue", .str "red"])]] ∧
    yielded watch.answers ++ watch.cursor.buffer ≠
      results (toBoth "blue" "red") ((documentsIn watch.store visits).take watch.cursor.position)
        watch.seen := by
  refine ⟨by rfl, by simp, ?_⟩
  intro watch
  have hanswers : watch.answers =
      [.ok (some (visit 1 [("rooms", .arr [.str "blue", .str "red"])]))] := by rfl
  have hbuffer : watch.cursor.buffer = [visit 2 [("rooms", .arr [.str "red"])]] := by rfl
  have hresults : results (toBoth "blue" "red")
      ((documentsIn watch.store visits).take watch.cursor.position) watch.seen =
        [visit 1 [("rooms", .arr [.str "blue", .str "red"])]] := by rfl
  refine ⟨hanswers, hbuffer, hresults, fun heq => ?_⟩
  rw [hanswers, hbuffer, hresults] at heq
  cases congrArg List.length heq

end DocStore.Proofs.Store.Paging
