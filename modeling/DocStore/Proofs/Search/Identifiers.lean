import DocStore.Proofs.Search.Running
import DocStore.Proofs.Store.Identity
import DocStore.Proofs.Store.Sources
import Mathlib.Data.List.Forall2

/-!
# Results under the identifiers of their documents

The name of an output begins with the name of the collection that is searched, so no join covers the
identifier of a document. A cursor passes each place of its collection once. So its results are those
of different documents, under the identifiers of these.
-/
namespace DocStore.Proofs.Search.Identifiers

open DocStore.Search (lookupOfJoin)
open Compile Results Running
open Pipeline.Apply (apply_eq_some_iff field?_attached_of_ne)
open Store.Batch Store.Identity Store.Life Store.Paging Store.Sources Store.Watching

/-- What stands in the field of the identifier. -/
def idOf? (document : Json) : Option Json := document.field? DocumentId.field

/-- Both are there, and neither equals the other in a query. -/
def Apart (first second : Option Json) : Prop :=
  ∃ value value', first = some value ∧ second = some value' ∧
    value.equal value' = false ∧ value'.equal value = false

/-- The result was made of the document in one of the sessions. -/
def MadeOf (pipeline : Pipeline) (seen : List Session) (document result : Json) : Prop :=
  ∃ session ∈ seen, pipeline.apply session.documents document = some result

/-- The result was made of the document and has the identifier under which this is stored. -/
def Carries (pipeline : Pipeline) (seen : List Session) (document result : Json) : Prop :=
  MadeOf pipeline seen document result ∧
    ∃ id : DocumentId, idOf? document = some id.toJson ∧ idOf? result = some id.toJson

variable {store : Store} {target : CollectionName} {joins : Joins} {loader : Loader}
variable {clause : Clause} {pipeline : Pipeline} {cursor : Cursor} {resolve : Resolver}
variable {document result : Json} {origins found : List Json} {seen : List Session}

/-! ## The documents of a collection -/

section Stored

variable {stored : Collection} {entries : List (DocumentId × Json)}

theorem identified_of_keyed (h : Keyed stored entries) (hdocument : document ∈ stored.documents) :
    document.isObject = true ∧ ∃ id : DocumentId, idOf? document = some id.toJson := by
  rw [h.documents_eq] at hdocument
  obtain ⟨entry, hentry, rfl⟩ := List.mem_map.1 hdocument
  exact ⟨h.isObject entry hentry, entry.1, h.carries entry hentry⟩

theorem apart_toJson {id other : DocumentId} (h : id ≠ other) :
    Apart (some id.toJson) (some other.toJson) :=
  ⟨_, _, rfl, rfl, Bool.eq_false_iff.2 (mt (equal_toJson_iff id other).1 h),
    Bool.eq_false_iff.2 (mt (equal_toJson_iff other id).1 h.symm)⟩

theorem apart_of_keyed (h : Keyed stored entries) :
    (stored.documents.map idOf?).Pairwise Apart := by
  have hids : entries.Pairwise fun entry other => entry.1 ≠ other.1 := by
    rw [← List.pairwise_map, ← h.ids_eq]
    exact h.nodup
  rw [h.documents_eq, List.map_map, List.pairwise_map]
  refine hids.imp_of_mem fun {entry other} hentry hother hne => ?_
  have hfirst : idOf? entry.2 = some entry.1.toJson := h.carries entry hentry
  have hsecond : idOf? other.2 = some other.1.toJson := h.carries other hother
  simp only [Function.comp_apply, hfirst, hsecond]
  exact apart_toJson hne

end Stored

/-! ## Results and the documents they are made of -/

/-- Each result is made of a document at a place of its own. -/
theorem exists_origins (pipeline : Pipeline) (documents : List Json) (seen : List Session) :
    ∃ origins : List Json, origins.Sublist documents ∧
      List.Forall₂ (MadeOf pipeline seen) origins (results pipeline documents seen) := by
  -- Documents and sessions come in pairs; a pair without a result drops out.
  induction documents generalizing seen with
  | nil => exact ⟨[], .slnil, .nil⟩
  | cons document rest ih =>
    cases seen with
    | nil => exact ⟨[], List.nil_sublist _, .nil⟩
    | cons session later =>
      obtain ⟨origins, hsublist, hmade⟩ := ih later
      have hlater : List.Forall₂ (MadeOf pipeline (session :: later)) origins
          (results pipeline rest later) :=
        hmade.imp fun _ _ ⟨session', hmem, happly⟩ =>
          ⟨session', List.mem_cons_of_mem session hmem, happly⟩
      unfold results
      rw [List.zip_cons_cons, List.filterMap_cons]
      cases happly : pipeline.apply session.documents document with
      | none => exact ⟨origins, hsublist.cons document, hlater⟩
      | some result =>
        exact ⟨document :: origins, hsublist.cons_cons document,
          .cons ⟨session, List.mem_cons_self, happly⟩ hlater⟩

theorem idOf?_apply (hfree : ∀ lookup ∈ pipeline.lookups, lookup.output ≠ DocumentId.field)
    (hobject : document.isObject = true) (happly : pipeline.apply resolve document = some result) :
    idOf? result = idOf? document := by
  obtain ⟨-, rfl⟩ := apply_eq_some_iff.1 happly
  exact field?_attached_of_ne hobject hfree

theorem carries_of_made
    (hfree : ∀ lookup ∈ pipeline.lookups, lookup.output ≠ DocumentId.field)
    (hstored : ∀ document ∈ origins,
      document.isObject = true ∧ ∃ id : DocumentId, idOf? document = some id.toJson)
    (h : List.Forall₂ (MadeOf pipeline seen) origins found) :
    List.Forall₂ (Carries pipeline seen) origins found := by
  have hpairs := (List.forall₂_and_left _ _).2 ⟨hstored, h⟩
  refine hpairs.imp fun document result ⟨⟨hobject, id, hid⟩, session, hseen, happly⟩ => ?_
  exact ⟨⟨session, hseen, happly⟩, id, hid, (idOf?_apply hfree hobject happly).trans hid⟩

theorem map_idOf?_eq (h : List.Forall₂ (Carries pipeline seen) origins found) :
    found.map idOf? = origins.map idOf? := by
  induction h with
  | nil => rfl
  | cons hcarries _ ih =>
    obtain ⟨-, id, hdocument, hresult⟩ := hcarries
    rw [List.map_cons, List.map_cons, hdocument, hresult, ih]

/-- What a cursor has yielded was made of documents that it has passed. What is in its buffer comes
behind. -/
theorem yielded_made {count : Nat} {watch : Watch} {session : Session}
    (h : Account target pipeline count watch session) :
    ∃ origins : List Json, origins.Sublist (session.documents target) ∧
      List.Forall₂ (MadeOf pipeline watch.seen) origins (yielded watch.answers) := by
  obtain ⟨origins, hpassed, hmade⟩ := exists_origins pipeline
    ((session.documents target).take watch.cursor.position) watch.seen
  rw [← h.results_eq] at hmade
  exact ⟨origins.take (yielded watch.answers).length,
    ((List.take_sublist _ _).trans hpassed).trans (List.take_sublist _ _),
    List.forall₂_take_append _ _ _ hmade⟩

/-- Where no lookup covers the identifier, a cursor yields no document twice, and each under its
identifier. -/
theorem yielded_carries (hreachable : Reachable store)
    (hopened : (store.aggregate target pipeline).result = .ok cursor)
    (hfree : ∀ lookup ∈ cursor.pipeline.lookups, lookup.output ≠ DocumentId.field)
    (others : List Cursor) {events : List Event} (hstop : .stop ∉ events) :
    let watch := (Watch.begun store cursor others).run events
    ∃ origins : List Json, origins.Sublist (documentsIn watch.store target) ∧
      List.Forall₂ (Carries cursor.pipeline watch.seen) origins (yielded watch.answers) ∧
      ((yielded watch.answers).map idOf?).Pairwise Apart := by
  intro watch
  obtain ⟨opening, -, hbegun⟩ := begun_account hopened others
  obtain ⟨session, -, haccount⟩ := hbegun.run hstop
  have hsession : watch.store.session = some session := haccount.live.session_eq
  have hbuffer : cursor.buffer = [] := by
    obtain ⟨-, -, -, rfl⟩ := aggregate_eq_ok hopened
    rfl
  have hrun : Reachable watch.store :=
    ((begun_sourced hreachable hbuffer others).run events).reachable
  obtain ⟨entries, hkeyed⟩ := (indexed_of_reachable hrun hsession).held target
  obtain ⟨origins, hsublist, hmade⟩ := yielded_made haccount
  rw [documentsIn_eq hsession]
  rw [documents_held] at hsublist ⊢
  have hcarries := carries_of_made hfree
    (fun document hdocument => identified_of_keyed hkeyed (hsublist.subset hdocument)) hmade
  refine ⟨origins, hsublist, hcarries, ?_⟩
  rw [map_idOf?_eq hcarries]
  exact (apart_of_keyed hkeyed).sublist (hsublist.map idOf?)

/-! ## The outputs of joins -/

/-- The identifier has an underscore at its beginning and no other. -/
theorem joinedField_ne_id (h : target.Valid) (right : CollectionName) :
    target.joinedField right ≠ DocumentId.field := by
  intro heq
  have hlist := toList_joinedField target right
  rw [heq] at hlist
  cases htext : target.text.toList with
  | nil => exact h.1 (String.toList_eq_nil_iff.1 htext)
  | cons c rest =>
    rw [htext, List.cons_append] at hlist
    have hrest : rest ++ '_' :: right.text.toList = ['i', 'd'] := (List.cons.inj hlist).2.symm
    have hmem : '_' ∈ ['i', 'd'] := by
      rw [← hrest]
      exact List.mem_append_right _ List.mem_cons_self
    revert hmem
    decide

theorem output_ne_id (h : target.Valid) (clause : Clause) :
    ∀ lookup ∈ (compiled target clause joins).lookups, lookup.output ≠ DocumentId.field := by
  intro lookup hlookup
  obtain ⟨join, hkept, rfl⟩ := (mem_lookups clause).1 hlookup
  have hleft : join.left = target := by simpa using List.find?_some hkept
  show join.left.joinedField join.right ≠ DocumentId.field
  rw [hleft]
  exact joinedField_ne_id h join.right

/-- The cursor of a search is the one that the store opens for what was compiled. -/
theorem aggregate_of_search
    (h : (Repository.search target clause ⟨store, joins, loader⟩).result = .ok cursor) :
    (store.aggregate target (compiled target clause joins)).result = .ok cursor := by
  obtain ⟨session, hsession, hvalid, -, hread, rfl⟩ := search_eq_ok_iff.1 h
  exact aggregate_eq_ok_iff.2 ⟨hvalid, hread, session, hsession, rfl⟩

/-- While the store is not stopped, whatever is inserted between the calls: the results of a search
are those of different documents of the collection, in the order in which these are stored. Each has
the identifier of its document, because no join puts anything in this field. So no two results have
identifiers that equal each other. -/
theorem search_keeps_identifiers (hreachable : Reachable store)
    (hsearch : (Repository.search target clause ⟨store, joins, loader⟩).result = .ok cursor)
    (others : List Cursor) {events : List Event} (hstop : .stop ∉ events) :
    (∀ lookup ∈ cursor.pipeline.lookups, lookup.output ≠ DocumentId.field) ∧
    let watch := (Watch.begun store cursor others).run events
    ∃ origins : List Json, origins.Sublist (documentsIn watch.store target) ∧
      List.Forall₂ (Carries cursor.pipeline watch.seen) origins (yielded watch.answers) ∧
      ((yielded watch.answers).map idOf?).Pairwise Apart := by
  have hfree : ∀ lookup ∈ cursor.pipeline.lookups, lookup.output ≠ DocumentId.field := by
    obtain ⟨session, -, hvalid, -, -, rfl⟩ := search_eq_ok_iff.1 hsearch
    exact output_ne_id hvalid clause
  exact ⟨hfree, yielded_carries hreachable (aggregate_of_search hsearch) hfree others hstop⟩

/-! ## A number and a text -/

def toRooms : Join := ⟨visits, "room", rooms, "name"⟩

/-- The first visit has a text for an identifier; the second one gets the number of this text. -/
def booked : Store :=
  (hotel.insertMany visits [.obj [("_id", .str "1"), blue], .obj [blue], .obj []]).state

def bookedSession : Session where
  name := "db"
  label := "first"
  number := 1
  collections := [("visits", ⟨[.obj [("_id", .str "1"), blue], visit 1 [blue], visit 2 []],
    [.text "1", .int 1, .int 2], 2⟩)]

def bookedCursor : Cursor := cursorOf visits .empty [toRooms] booked bookedSession

/-- Between two pages a room becomes known and one more visit comes. -/
def laterCalls : List Event :=
  [.next, .insertMany rooms [.obj [("name", .str "blue")]], .insertMany visits [.obj [blue]],
    .next, .next, .next, .next]

theorem visits_keep_identifiers :
    Reachable booked ∧
    (Repository.search visits .empty ⟨booked, [toRooms], .standard⟩).result = .ok bookedCursor ∧
    .stop ∉ laterCalls ∧
    let watch := (Watch.begun booked bookedCursor []).run laterCalls
    yielded watch.answers =
      [.obj [("_id", .str "1"), blue, ("visits_rooms", .arr [])],
        visit 1 [blue, ("visits_rooms", .arr [])], visit 2 [("visits_rooms", .arr [])],
        visit 3 [blue, ("visits_rooms", .arr [visit 1 [("name", .str "blue")]])]] ∧
    ((yielded watch.answers).map idOf?).Pairwise Apart := by
  have hreachable : Reachable booked :=
    .insertMany visits _ (.start "db" "first" (.fresh 2 Nat.two_pos))
  have hsearch : (Repository.search visits .empty ⟨booked, [toRooms], .standard⟩).result =
      .ok bookedCursor :=
    search_eq_ok_iff.2 ⟨bookedSession, by rfl, by decide, by rfl, by rfl, rfl⟩
  have hstop : .stop ∉ laterCalls := by simp [laterCalls]
  obtain ⟨-, origins, -, -, hapart⟩ := search_keeps_identifiers hreachable hsearch [] hstop
  exact ⟨hreachable, hsearch, hstop, by rfl, hapart⟩

end DocStore.Proofs.Search.Identifiers
