import DocStore.Proofs.Pipeline.Apply
import DocStore.Proofs.Pipeline.Form
import DocStore.Proofs.Search.Compile
import DocStore.Proofs.Store.Draining
import DocStore.Proofs.Store.Life
import DocStore.Repository

/-!
# The results of a search

A search is followed from the clause and the joins to the documents that its cursor yields. Neither
the written form of the pipeline nor the size of the pages shows in them.
-/
namespace DocStore.Proofs.Search.Results

open DocStore.Search (compile conditions lookupOfJoin)
open Compile Pipeline.Apply Pipeline.Form Store.Draining Store.Life

/-- The document has the text in the field, by itself or as an item of an array. -/
def hasText (document : Json) (field text : String) : Bool :=
  match document.get? field with
  | some (.str actual) => actual == text
  | some (.arr items) => items.contains (.str text)
  | _ => false

def satisfied (clause : Clause) (document : Json) : Bool :=
  clause.constraints.all fun constraint => hasText document constraint.1 constraint.2

/-- A foreign document belongs to a document if its value matches the one on the left. An array on
the left stands for its items and not for itself. -/
def belongs (join : Join) (document foreign : Json) : Bool :=
  match document.get? join.leftField, foreign.get? join.rightField with
  | none, _ | some .null, _ | _, none => false
  | some (.arr items), some actual => items.any (actual.matchesValue ·)
  | some value, some actual => actual.matchesValue value

/-- The result for a document: the first join into each right collection fills its field, and all
other fields are those of the document. The foreign documents are chosen by `chosen`. -/
structure Joined (chosen : Join → Json → Json → Bool) (session : Session) (joins : Joins)
    (target : CollectionName) (document result : Json) : Prop where
  isObject : result.isObject = true
  filled : ∀ join,
    joins.find? (fun other => other.left = target ∧ other.right = join.right) = some join →
    result.field? (target.joinedField join.right) =
      some (.arr ((session.documents join.right).filter (chosen join document)))
  kept : ∀ name, (∀ join ∈ joins, join.left = target → name ≠ target.joinedField join.right) →
    result.field? name = document.field? name

/-! ## Conditions and constraints -/

theorem equal_str_iff (value : Json) (text : String) :
    value.equal (.str text) = true ↔ value = .str text := by
  cases value <;> simp [Json.equal]

theorem any_equal_str (items : List Json) (text : String) :
    items.any (·.equal (.str text)) = items.contains (.str text) := by
  rw [Bool.eq_iff_iff, List.any_eq_true, List.contains_iff_mem]
  constructor
  · rintro ⟨item, hitem, hequal⟩
    rwa [(equal_str_iff item text).1 hequal] at hitem
  · intro hmem
    exact ⟨_, hmem, (equal_str_iff _ text).2 rfl⟩

/-- A condition on a text asks what a constraint asks. -/
theorem holds_text (document : Json) (field text : String) :
    DocStore.Pipeline.holds document (field, .str text) = hasText document field text := by
  unfold DocStore.Pipeline.holds hasText
  cases document.get? field with
  | none => rfl
  | some value =>
    cases value with
    | arr items => simp [Json.matchesValue, Json.equal, Json.isArray, any_equal_str]
    | null | bool _ | num _ | str _ | obj _ => simp [Json.matchesValue, Json.equal]

theorem conditions_nodup {clause : Clause} (h : (clause.constraints.map (·.1)).Nodup) :
    ((conditions clause).map (·.1)).Nodup := by
  simpa [conditions, Function.comp_def] using h

/-- The written form orders the conditions of a clause and loses none of them. -/
theorem accepts_iff_satisfied {clause : Clause} (h : (clause.constraints.map (·.1)).Nodup)
    (target : CollectionName) (joins : Joins) (document : Json) :
    (normal (compiled target clause joins)).accepts document = satisfied clause document := by
  have hnodup : ((compiled target clause joins).conditions.map (·.1)).Nodup := conditions_nodup h
  rw [accepts_normal hnodup]
  show (conditions clause).all (DocStore.Pipeline.holds document) = _
  rw [conditions, List.all_map]
  exact congrArg clause.constraints.all (funext fun constraint =>
    holds_text document constraint.1 constraint.2)

/-! ## Lookups and joins -/

theorem collect_eq (join : Join) (document : Json) (foreign : List Json) :
    (lookupOfJoin join).collect document foreign = foreign.filter (belongs join document) := by
  unfold Lookup.collect lookupOfJoin
  cases hvalue : document.get? join.leftField with
  | none => simp [belongs, hvalue]
  | some value =>
    cases value with
    | null => simp [belongs, hvalue]
    | bool _ | num _ | str _ | arr _ | obj _ =>
      apply List.filter_congr
      intro other _
      cases hactual : other.get? join.rightField <;>
        simp [Lookup.joins, belongs, hvalue, hactual]

/-- The result of a document that the search accepts. -/
theorem attached_joined {session : Session} {document : Json} (hobject : document.isObject = true)
    (clause : Clause) (joins : Joins) (target : CollectionName) :
    Joined belongs session joins target document
      (attached (normal (compiled target clause joins)) session.documents document) where
  isObject := attached_isObject hobject
  filled join hfirst := by
    have hlookup : lookupOfJoin join ∈ (normal (compiled target clause joins)).lookups :=
      (mem_lookups clause).2 ⟨join, hfirst, rfl⟩
    have hnodup : ((normal (compiled target clause joins)).lookups.map (·.output)).Nodup :=
      outputs_nodup target clause joins
    have hleft : join.left = target := by
      simpa using (List.find?_some hfirst)
    have houtput : target.joinedField join.right = (lookupOfJoin join).output := by
      rw [← hleft]
      rfl
    rw [houtput, field?_attached_of_mem hobject hnodup hlookup, collect_eq]
    rfl
  kept name hname := by
    apply field?_attached_of_ne hobject
    intro lookup hlookup heq
    obtain ⟨join, hfirst, rfl⟩ := (mem_lookups clause).1 hlookup
    have hmem := List.mem_of_find?_eq_some hfirst
    have hleft : join.left = target := by
      simpa using (List.find?_some hfirst)
    apply hname join hmem hleft
    rw [← heq, ← hleft]
    rfl

/-! ## The cursor of a search -/

/-- The cursor that a search opens. -/
def cursorOf (target : CollectionName) (clause : Clause) (joins : Joins) (store : Store)
    (session : Session) : Cursor where
  session := some session.number
  collection := target
  pipeline := normal (compiled target clause joins)
  position := 0
  pageSize := store.pageSize
  pageSize_pos := store.pageSize_pos
  buffer := []

/-- When a search opens a cursor, and which one. The size of the pages has no part in the first. -/
theorem search_eq_ok_iff {repository : Repository} {target : CollectionName} {clause : Clause}
    {cursor : Cursor} :
    (repository.search target clause).result = .ok cursor ↔
      ∃ session, repository.store.session = some session ∧ target.Valid ∧
        (compile target clause repository.joins).result =
          .ok (compiled target clause repository.joins) ∧
        DocStore.Pipeline.ofJson (compiled target clause repository.joins).toJson =
          .ok (normal (compiled target clause repository.joins)) ∧
        cursor = cursorOf target clause repository.joins repository.store session := by
  obtain ⟨⟨session, number, pageSize, hpageSize⟩, joins, loader⟩ := repository
  cases session with
  | none => simp [Repository.search, DocStore.Store.isStarted]
  | some session =>
    cases hcompile : (compile target clause joins).result with
    | error error => simp [Repository.search, DocStore.Store.isStarted, hcompile]
    | ok pipeline =>
      obtain rfl := compile_eq hcompile
      by_cases hvalid : target.Valid
      · cases hread : DocStore.Pipeline.ofJson (compiled target clause joins).toJson with
        | error fault =>
          simp [Repository.search, DocStore.Store.isStarted, DocStore.Store.aggregate, hcompile,
            hvalid, hread]
        | ok read =>
          obtain rfl := ofJson_toJson hread
          simp [Repository.search, DocStore.Store.isStarted, DocStore.Store.aggregate, hcompile,
            hvalid, hread, cursorOf, eq_comm]
      · simp [Repository.search, DocStore.Store.isStarted, DocStore.Store.aggregate, hcompile,
          hvalid]

/-- What is still to come from the cursor of a search when it is opened. -/
theorem remaining_cursorOf {clause : Clause} (h : (clause.constraints.map (·.1)).Nodup)
    (target : CollectionName) (joins : Joins) (store : Store) (session : Session) :
    remaining session (cursorOf target clause joins store session) =
      ((session.documents target).filter (satisfied clause)).map
        (attached (normal (compiled target clause joins)) session.documents) := by
  have hfilter : (session.documents target).filter
      (normal (compiled target clause joins)).accepts =
        (session.documents target).filter (satisfied clause) :=
    List.filter_congr fun document _ => accepts_iff_satisfied h target joins document
  rw [← hfilter, ← filterMap_apply]
  rfl

theorem cursorOf_live {target : CollectionName} {clause : Clause} {joins : Joins} {store : Store}
    {session : Session} (h : store.session = some session) :
    Live store session (cursorOf target clause joins store session) := ⟨h, .inr rfl⟩

variable {store : Store} {joins : Joins} {loader : Loader} {target : CollectionName}
variable {pairs : List (String × String)} {cursor : Cursor}

/-- The cursor of a search yields a result for each document of the collection that satisfies the
clause, in the order of the collection: the document with the foreign documents that belong to it
under the first join into each right collection. Pages of another size yield the same results. -/
theorem search_yields (hreachable : Reachable store)
    (hsearch : (Repository.search target (.ofPairs pairs) ⟨store, joins, loader⟩).result =
      .ok cursor) :
    ∃ session results, store.session = some session ∧ Yields store cursor results ∧
      (cursor.drain store).2.1 = results.map .ok ∧
      List.Forall₂ (Joined belongs session joins target)
        ((session.documents target).filter (satisfied (.ofPairs pairs))) results ∧
      ∀ pageSize (h : 0 < pageSize), ∃ cursor',
        (Repository.search target (.ofPairs pairs)
          ⟨{ store with pageSize, pageSize_pos := h }, joins, loader⟩).result = .ok cursor' ∧
        Yields { store with pageSize, pageSize_pos := h } cursor' results := by
  obtain ⟨session, hsession, hvalid, hcompile, hread, rfl⟩ := search_eq_ok_iff.1 hsearch
  have hnodup := ofPairs_nodup pairs
  have hresults := remaining_cursorOf hnodup target joins store session
  refine ⟨session, _, hsession, yields_remaining (cursorOf_live hsession),
    drain_eq (cursorOf_live hsession), ?_, ?_⟩
  · rw [hresults, List.forall₂_map_right_iff, List.forall₂_same]
    intro document hdocument
    have hobject : document.isObject = true :=
      hreachable.documented hsession target document (List.mem_of_mem_filter hdocument)
    exact attached_joined hobject (.ofPairs pairs) joins target
  · intro pageSize h
    refine ⟨_, search_eq_ok_iff.2 ⟨session, hsession, hvalid, hcompile, hread, rfl⟩, ?_⟩
    have hlive : Live { store with pageSize, pageSize_pos := h } session
        (cursorOf target (.ofPairs pairs) joins { store with pageSize, pageSize_pos := h }
          session) := cursorOf_live hsession
    rw [hresults, ← remaining_cursorOf hnodup target joins
      { store with pageSize, pageSize_pos := h } session]
    exact yields_remaining hlive

/-! ## Tags -/

def users : CollectionName := ⟨"users"⟩

def organizations : CollectionName := ⟨"organizations"⟩

def byTags : Join := ⟨users, "tags", organizations, "tags"⟩

def tagged (tags : Json) : Json := .obj [("tags", tags)]

def numbered (id : UInt64) (tags : Json) : Json :=
  .obj [("_id", (DocumentId.int id.toInt64).toJson), ("tags", tags)]

def filled (id : UInt64) (tags : Json) (found : List Json) : Json :=
  .obj [("_id", (DocumentId.int id.toInt64).toJson), ("tags", tags),
    ("users_organizations", .arr found)]

def ab : Json := .arr [.str "a", .str "b"]

/-- A user and an organization with no tags, and two that share a tag. -/
def tagStore : Store :=
  let withUsers := (Store.new.start "db" "first").state.insertMany users [tagged (.arr []), tagged ab]
  (withUsers.state.insertMany organizations [tagged (.arr []), tagged (.str "b")]).state

def tagSession : Session where
  name := "db"
  label := "first"
  number := 1
  collections := [
    ("organizations", ⟨[numbered 1 (.arr []), numbered 2 (.str "b")], [.int 1, .int 2], 2⟩),
    ("users", ⟨[numbered 1 (.arr []), numbered 2 ab], [.int 1, .int 2], 2⟩)]

def tagCursor (pairs : List (String × String)) : Cursor :=
  cursorOf users (.ofPairs pairs) [byTags] tagStore tagSession

theorem tagStore_reachable : Reachable tagStore :=
  .insertMany _ _ (.insertMany _ _ (.start _ _ (.fresh _ (by decide))))

theorem users_tagged_a :
    ∃ results, (Repository.search users (.ofPairs [("tags", "a")])
        ⟨tagStore, [byTags], .standard⟩).result = .ok (tagCursor [("tags", "a")]) ∧
      Yields tagStore (tagCursor [("tags", "a")]) results ∧
      List.Forall₂ (Joined belongs tagSession [byTags] users) [numbered 2 ab] results := by
  have hsession : tagStore.session = some tagSession := by rfl
  have hsearch : (Repository.search users (.ofPairs [("tags", "a")])
      ⟨tagStore, [byTags], .standard⟩).result = .ok (tagCursor [("tags", "a")]) :=
    search_eq_ok_iff.2 ⟨tagSession, hsession, by decide, by rfl, by rfl, rfl⟩
  obtain ⟨session, results, hsession', hyields, -, hjoined, -⟩ :=
    search_yields tagStore_reachable hsearch
  obtain rfl := Option.some.inj (hsession.symm.trans hsession')
  have hfound : (tagSession.documents users).filter (satisfied (.ofPairs [("tags", "a")])) =
      [numbered 2 ab] := by rfl
  rw [hfound] at hjoined
  exact ⟨results, hsearch, hyields, hjoined⟩

/-- The choice of foreign documents if an array on the left stood for itself too. -/
def belongsWhole (join : Join) (document foreign : Json) : Bool :=
  match document.get? join.leftField, foreign.get? join.rightField with
  | none, _ | some .null, _ | _, none => false
  | some value, some actual => actual.matchesValue value || belongs join document foreign

/-- Two equal arrays do not join where they have no items. -/
theorem empty_array_joins_nothing :
    Reachable tagStore ∧ tagStore.session = some tagSession ∧
    (Repository.search users (.ofPairs []) ⟨tagStore, [byTags], .standard⟩).result =
      .ok (tagCursor []) ∧
    ∃ results, Yields tagStore (tagCursor []) results ∧
      ¬ List.Forall₂ (Joined belongsWhole tagSession [byTags] users)
        ((tagSession.documents users).filter (satisfied (.ofPairs []))) results := by
  have hsession : tagStore.session = some tagSession := by rfl
  refine ⟨tagStore_reachable, hsession,
    search_eq_ok_iff.2 ⟨tagSession, hsession, by decide, by rfl, by rfl, rfl⟩,
    remaining tagSession (tagCursor []), yields_remaining (cursorOf_live hsession), ?_⟩
  intro hjoined
  have hfound : (tagSession.documents users).filter (satisfied (.ofPairs [])) =
      [numbered 1 (.arr []), numbered 2 ab] := by rfl
  have hresults : remaining tagSession (tagCursor []) =
      [filled 1 (.arr []) [], filled 2 ab [numbered 2 (.str "b")]] := by rfl
  rw [hfound, hresults] at hjoined
  obtain ⟨hfirst, -⟩ := List.forall₂_cons.1 hjoined
  have hfilled := hfirst.filled byTags (by decide)
  have hchosen : (tagSession.documents byTags.right).filter
      (belongsWhole byTags (numbered 1 (.arr []))) = [numbered 1 (.arr [])] := by rfl
  rw [hchosen] at hfilled
  revert hfilled
  decide

end DocStore.Proofs.Search.Results
