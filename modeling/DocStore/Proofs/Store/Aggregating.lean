import DocStore.Proofs.Store.Paging

/-!
# Running a pipeline on a store

What runs is the written form of the pipeline. Of several conditions on one field it holds the last
one only, and everything else is as given. So a cursor yields what the pipeline gives for each
document, unless a document meets the last conditions and misses one that a later one displaced.
-/
namespace DocStore.Proofs.Store.Aggregating

open Draining Paging
open Pipeline.Form

variable {pipeline : Pipeline}

/-- A cursor yields, in the order of the collection, what the last condition on each field and the
lookups make of the documents. This is what the pipeline itself gives exactly if no document of the
collection meets the last conditions and misses an earlier one, as is sure where no field is
constrained twice. -/
theorem yields_pipeline_iff {store : Store} {name : CollectionName} {cursor : Cursor}
    (hopened : (store.aggregate name pipeline).result = .ok cursor) :
    ∃ session, store.session = some session ∧
      let documents := session.documents name
      let results := documents.filterMap ((lastly pipeline).apply session.documents)
      Yields store cursor results ∧ (cursor.drain store).2.1 = results.map .ok ∧
      (Yields store cursor (documents.filterMap (pipeline.apply session.documents)) ↔
        ∀ document ∈ documents, (lastly pipeline).accepts document = true →
          pipeline.accepts document = true) ∧
      ((pipeline.conditions.map (·.1)).Nodup → lastly pipeline = pipeline) := by
  obtain ⟨session, hsession, -, rfl⟩ := aggregate_eq_ok hopened
  have hremaining : remaining session ⟨some session.number, name, normal pipeline, 0,
      store.pageSize, store.pageSize_pos, []⟩ =
        (session.documents name).filterMap ((lastly pipeline).apply session.documents) := by
    rw [← apply_normal_eq]
    rfl
  have hlive : Live store session ⟨some session.number, name, normal pipeline, 0,
      store.pageSize, store.pageSize_pos, []⟩ := ⟨hsession, .inr rfl⟩
  have hyields := yields_remaining hlive
  have hdrain := drain_eq hlive
  rw [hremaining] at hyields hdrain
  have hsame : (session.documents name).filterMap ((lastly pipeline).apply session.documents) =
        (session.documents name).filterMap (pipeline.apply session.documents) ↔
      ∀ document ∈ session.documents name, (lastly pipeline).accepts document = true →
        pipeline.accepts document = true :=
    filterMap_lastly_eq_iff pipeline (session.documents name) (fun _ => session.documents) id
  refine ⟨session, hsession, hyields, hdrain, ?_, ?_⟩
  · rw [← hsame]
    constructor
    · exact hyields.unique
    · intro heq
      rwa [← heq]
  · exact lastly_of_nodup

/-! ## Visits to two rooms -/

def stayed : Session where
  name := "db"
  label := "first"
  number := 1
  collections := [("visits",
    ⟨[visit 1 [("rooms", .arr [.str "blue", .str "red"])], visit 2 [("rooms", .arr [.str "red"])]],
      [.int 1, .int 2], 2⟩)]

/-- Whoever was in the blue room was in the red one too, so the condition that is displaced is not
missed. -/
theorem red_then_blue :
    (stays.aggregate visits (toBoth "red" "blue")).result = .ok (lastRoom "blue") ∧
    stays.session = some stayed ∧
    Yields stays (lastRoom "blue")
      ((stayed.documents visits).filterMap ((toBoth "red" "blue").apply stayed.documents)) := by
  have hopened : (stays.aggregate visits (toBoth "red" "blue")).result = .ok (lastRoom "blue") := by
    rfl
  have hsession : stays.session = some stayed := by rfl
  obtain ⟨session, hsession', -, -, hiff, -⟩ := yields_pipeline_iff hopened
  obtain rfl := Option.some.inj (hsession.symm.trans hsession')
  refine ⟨hopened, hsession, hiff.2 ?_⟩
  decide

/-- The other way round, the second visit comes out of the store although the pipeline does not
accept it: the condition on the blue room is not in the written form. -/
theorem red_visit_comes_out :
    (stays.aggregate visits (toBoth "blue" "red")).result = .ok (lastRoom "red") ∧
    stays.session = some stayed ∧
    Yields stays (lastRoom "red") (stayed.documents visits) ∧
    (stayed.documents visits).filterMap ((toBoth "blue" "red").apply stayed.documents) =
      [visit 1 [("rooms", .arr [.str "blue", .str "red"])]] ∧
    ¬ Yields stays (lastRoom "red")
      ((stayed.documents visits).filterMap ((toBoth "blue" "red").apply stayed.documents)) := by
  have hsession : stays.session = some stayed := by rfl
  have hyields : Yields stays (lastRoom "red") (stayed.documents visits) :=
    yields_remaining ⟨hsession, .inr rfl⟩
  refine ⟨by rfl, hsession, hyields, by rfl, fun hboth => ?_⟩
  have hlength := congrArg List.length (hyields.unique hboth)
  revert hlength
  decide

end DocStore.Proofs.Store.Aggregating
