import DocStore.Proofs.Pipeline.Apply
import DocStore.Proofs.Store.Paging

/-!
# Documents that come while a cursor is open

A document that is appended comes out of the cursor if the cursor still holds on to its session,
and does not come out otherwise. The cursor lets go when a page reaches the end of the collection,
which may be long before its last result is taken.
-/
namespace DocStore.Proofs.Store.Arrivals

open Advance Draining Paging Watching

/-- The document at `index` has come out: its result stands behind those of the documents before
it. -/
def CameOut (watch : Watch) (name : CollectionName) (index : Nat) : Prop :=
  ∃ document session result rest, (documentsIn watch.store name)[index]? = some document ∧
    watch.seen[index]? = some session ∧
    watch.cursor.pipeline.apply session.documents document = some result ∧
    yielded watch.answers = results watch.cursor.pipeline
      ((documentsIn watch.store name).take index) (watch.seen.take index) ++ result :: rest

theorem results_split {pipeline : Pipeline} {documents : List Json} {seen : List Session}
    {index : Nat} {document result : Json} {session : Session}
    (hdocument : documents[index]? = some document) (hseen : seen[index]? = some session)
    (happly : pipeline.apply session.documents document = some result) :
    ∃ rest, results pipeline documents seen =
      results pipeline (documents.take index) (seen.take index) ++ result :: rest := by
  obtain ⟨hindex, hget⟩ := List.getElem?_eq_some_iff.1 hdocument
  obtain ⟨hindex', hget'⟩ := List.getElem?_eq_some_iff.1 hseen
  have hdocuments : documents =
      documents.take index ++ document :: documents.drop (index + 1) := by
    rw [← hget, List.getElem_cons_drop, List.take_append_drop]
  have hsessions : seen = seen.take index ++ session :: seen.drop (index + 1) := by
    rw [← hget', List.getElem_cons_drop, List.take_append_drop]
  have hlength : (documents.take index).length = (seen.take index).length := by
    rw [List.length_take, List.length_take]
    omega
  refine ⟨results pipeline (documents.drop (index + 1)) (seen.drop (index + 1)), ?_⟩
  conv_lhs => rw [hdocuments, hsessions]
  rw [results_append hlength]
  congr 1
  simp [results, happly]

variable {name : CollectionName} {pipeline : Pipeline} {count : Nat} {watch : Watch}
variable {session : Session} {index : Nat} {document : Json}

/-- Once a cursor has answered with the end, all accepted documents before its position are out. -/
theorem cameOut_of_ended (h : Account name pipeline count watch session)
    (hnone : .ok none ∈ watch.answers) (hindex : index < watch.cursor.position)
    (hdocument : (session.documents name)[index]? = some document)
    (haccepted : pipeline.accepts document = true) : CameOut watch name index := by
  have hlt : index < watch.seen.length := by
    rw [h.length_seen]
    exact hindex
  have hseen : watch.seen[index]? = some watch.seen[index] := List.getElem?_eq_getElem hlt
  obtain ⟨result, happly⟩ :
      ∃ result, pipeline.apply watch.seen[index].documents document = some result :=
    ⟨_, by rw [Pipeline.Apply.apply_eq, if_pos haccepted]⟩
  have hpassed : ((session.documents name).take watch.cursor.position)[index]? =
      some document := by
    rw [List.getElem?_take_of_lt hindex]
    exact hdocument
  obtain ⟨rest, hrest⟩ := results_split hpassed hseen happly
  have hyielded := h.results_eq
  rw [(h.ended hnone).2, List.append_nil, hrest, List.take_take,
    Nat.min_eq_left (Nat.le_of_lt hindex)] at hyielded
  refine ⟨document, watch.seen[index], result, rest, ?_, hseen, ?_, ?_⟩
  · rw [documentsIn_eq h.live.session_eq]
    exact hdocument
  · rw [h.pipeline_eq]
    exact happly
  · rw [documentsIn_eq h.live.session_eq, h.pipeline_eq]
    exact hyielded

/-! ## The end is reached -/

theorem run_next_ends {store : Store} {cursor : Cursor} {documents : List Json}
    (h : Yields store cursor documents) (hstore : watch.store = store)
    (hcursor : watch.cursor = cursor) :
    .ok none ∈ (watch.run (List.replicate (documents.length + 1) .next)).answers := by
  induction h generalizing watch with
  | @ended cursor hnone =>
    subst hstore hcursor
    have hanswers : (watch.step .next).answers = watch.answers ++ [.ok none] := by
      rw [← hnone]
      rfl
    show .ok none ∈ (watch.step .next).answers
    rw [hanswers]
    exact List.mem_append_right _ List.mem_cons_self
  | @more cursor document documents _ _ ih =>
    subst hstore hcursor
    have hcursor : (watch.step .next).cursor = (watch.cursor.next watch.store).state := rfl
    exact ih rfl hcursor

theorem run_eventually_ends (h : Live watch.store session watch.cursor) :
    ∃ calls, .ok none ∈ (watch.run (List.replicate calls .next)).answers :=
  ⟨_, run_next_ends (yields_remaining h) rfl rfl⟩

/-- A document appended to the collection of a cursor comes out before the end, if the pipeline
accepts it, exactly when the cursor has not let go of its session before the document came. It
makes no difference what else is called until then, and the end is reached by calling on. -/
theorem appended_cameOut_iff {store : Store} {cursor : Cursor}
    (hopened : (store.aggregate name pipeline).result = .ok cursor) (others : List Cursor)
    (events : List Event) (hstop : .stop ∉ events) (batch : List Json) :
    let before := (Watch.begun store cursor others).run events
    let after := before.step (.insertMany name batch)
    (∃ calls, .ok none ∈ (after.run (List.replicate calls .next)).answers) ∧
    ∀ index document, (documentsIn before.store name).length ≤ index →
      (documentsIn after.store name)[index]? = some document →
      cursor.pipeline.accepts document = true →
      ∀ more, .stop ∉ more → .ok none ∈ (after.run more).answers →
        (CameOut (after.run more) name index ↔ before.cursor.session ≠ none) := by
  intro before after
  obtain ⟨_, -, hbegun⟩ := begun_account hopened others
  obtain ⟨session, -, hbefore⟩ := hbegun.run hstop
  have hinsert : Event.insertMany name batch ≠ .stop := by simp
  obtain ⟨session', hextends, hafter⟩ := hbefore.step hinsert
  refine ⟨run_eventually_ends hafter.live, ?_⟩
  intro index document hnew hdocument haccepted more hstop' hnone
  rw [documentsIn_eq hbefore.live.session_eq] at hnew
  rw [documentsIn_eq hafter.live.session_eq] at hdocument
  have hcursor : after.cursor = before.cursor := rfl
  constructor
  · -- A cursor that has let go never passes the place of the document.
    rintro ⟨-, seen, -, -, -, hseen, -, -⟩ hreleased
    obtain ⟨last, -, hlast⟩ := hafter.run hstop'
    rw [← hcursor] at hreleased
    have hposition := (run_of_released hreleased more).2
    have hlt : index < (after.run more).seen.length := (List.getElem?_eq_some_iff.1 hseen).1
    have hle : before.cursor.position ≤ (session.documents name).length := hbefore.position_le
    rw [hlast.length_seen, hposition, hcursor] at hlt
    omega
  · intro hheld
    obtain ⟨last, hextends', hlast⟩ := (hafter.rebase hheld).run hstop'
    have hcovered := hlast.covered (hlast.ended hnone).1
    obtain ⟨hindex, -⟩ := List.getElem?_eq_some_iff.1 hdocument
    obtain ⟨later, hlater⟩ := hextends'.documents_prefix name
    have hdocument' : (last.documents name)[index]? = some document := by
      rw [← hlater, List.getElem?_append_left hindex]
      exact hdocument
    exact cameOut_of_ended hlast hnone (Nat.lt_of_lt_of_le hindex hcovered) hdocument' haccepted

/-! ## The last page -/

/-- The watch over a cursor that has given the first of the visits, in pages of two. -/
def firstVisit (count : Nat) : Watch :=
  let store := (hotel.insertMany visits (List.replicate count (.obj []))).state
  (Watch.begun store (visitCursor everyVisit) []).run [.next]

/-- Of three visits, the third is not on the first page, so a fourth comes out too. -/
theorem fourth_visit_cameOut :
    (firstVisit 3).cursor.session ≠ none ∧
    let after := (firstVisit 3).step (.insertMany visits [.obj []])
    (documentsIn after.store visits)[3]? = some (visit 4 []) ∧
    .ok none ∈ (after.run (List.replicate 4 .next)).answers ∧
    CameOut (after.run (List.replicate 4 .next)) visits 3 := by
  have hopened : ((hotel.insertMany visits (List.replicate 3 (.obj []))).state.aggregate visits
      everyVisit).result = .ok (visitCursor everyVisit) := by rfl
  have hheld : (firstVisit 3).cursor.session ≠ none := by decide
  have hdocument : (documentsIn ((firstVisit 3).step (.insertMany visits [.obj []])).store
      visits)[3]? = some (visit 4 []) := by rfl
  have hnone : .ok none ∈ (((firstVisit 3).step (.insertMany visits [.obj []])).run
      (List.replicate 4 .next)).answers :=
    List.mem_of_getElem? (i := 4) (by rfl)
  obtain ⟨-, hcameOut⟩ := appended_cameOut_iff hopened [] [.next] (by simp) [.obj []]
  exact ⟨hheld, hdocument, hnone,
    (hcameOut 3 (visit 4 []) (by decide) hdocument rfl _ (by simp) hnone).2 hheld⟩

/-- Of two visits, both are on the first page. The cursor has the second one still to give when a
third comes, and yet it never gives the third. -/
theorem third_visit_missed :
    ((hotel.insertMany visits (List.replicate 2 (.obj []))).state.aggregate visits
      everyVisit).result = .ok (visitCursor everyVisit) ∧
    .ok none ∉ (firstVisit 2).answers ∧ (firstVisit 2).cursor.isExhausted = false ∧
    (firstVisit 2).cursor.position ≤ 2 ∧
    let after := (firstVisit 2).step (.insertMany visits [.obj []])
    (documentsIn after.store visits)[2]? = some (visit 3 []) ∧
    everyVisit.accepts (visit 3 []) = true ∧
    (after.run [.next, .next]).answers =
      [.ok (some (visit 1 [])), .ok (some (visit 2 [])), .ok none] ∧
    ¬ CameOut (after.run [.next, .next]) visits 2 := by
  have hanswers : (firstVisit 2).answers = [.ok (some (visit 1 []))] := by rfl
  refine ⟨by rfl, ?_, by rfl, by decide, by rfl, by rfl, by rfl, ?_⟩
  · rw [hanswers]
    simp
  · rintro ⟨-, seen, -, -, -, hseen, -, -⟩
    cases hseen

end DocStore.Proofs.Store.Arrivals
