import DocStore.Proofs.CommandLine.Values
import DocStore.Proofs.Pipeline.Readable
import DocStore.Proofs.Search.Clauses
import DocStore.Proofs.Search.Results
import DocStore.Proofs.Store.Paging

/-!
# Which compiled searches run

A search that compiles is run by the store if its target and the joins that it keeps could be
written. What a clause constrains and what the lookups are to fill is always acceptable. So a query
and joins that were read from a command line are never refused later.
-/
namespace DocStore.Proofs.Search.Running

open DocStore.CommandLine (parseJoin)
open DocStore.Search (compile conditions lookupOfJoin)
open Clauses Compile Results CommandLine.Values
open Pipeline.Form Pipeline.Readable
open Store.Paging (aggregate_eq_ok_iff)

/-- A join into a collection that there can be, with a field on each side. -/
structure JoinRuns (join : Join) : Prop where
  valid : join.right.Valid
  left_named : join.leftField ≠ ""
  right_named : join.rightField ≠ ""

/-- The join comes first among those that lead from the target into its right collection. -/
def Kept (joins : Joins) (target : CollectionName) (join : Join) : Prop :=
  joins.find? (fun other => other.left = target ∧ other.right = join.right) = some join

instance (joins : Joins) (target : CollectionName) (join : Join) :
    Decidable (Kept joins target join) := inferInstanceAs (Decidable (_ = _))

variable {target : CollectionName} {clause : Clause} {joins : Joins} {join : Join}

/-- The name of an output begins as the name of the left collection does, and has an underscore. -/
theorem toList_joinedField (left right : CollectionName) :
    (left.joinedField right).toList = left.text.toList ++ '_' :: right.text.toList := by
  simp [CollectionName.joinedField, toString]

theorem joinedField_ne_empty (left right : CollectionName) : left.joinedField right ≠ "" := by
  intro hempty
  have hlist := toList_joinedField left right
  rw [hempty] at hlist
  simp at hlist

theorem joinedField_no_operator {left : CollectionName} (h : left.Valid) (right : CollectionName) :
    Text.startsWith (left.joinedField right) '$' = false := by
  obtain ⟨hne, hdollar, -⟩ := h
  unfold Text.startsWith
  rw [toList_joinedField]
  cases hlist : left.text.toList with
  | nil => exact absurd (String.toList_eq_nil_iff.1 hlist) hne
  | cons c rest =>
    have hc : c ≠ '$' := by
      rintro rfl
      simp [Text.contains, hlist] at hdollar
    simpa using hc

theorem lookupRuns_iff (h : join.left.Valid) : LookupRuns (lookupOfJoin join) ↔ JoinRuns join := by
  constructor
  · rintro ⟨hvalid, hleft, hright, -, -⟩
    exact ⟨hvalid, hleft, hright⟩
  · rintro ⟨hvalid, hleft, hright⟩
    exact ⟨hvalid, hleft, hright, joinedField_ne_empty _ _, joinedField_no_operator h _⟩

theorem conditionRuns_of_admissible
    (h : ∀ constraint ∈ clause.constraints, Admissible constraint.1) :
    ∀ condition ∈ Fields.ofPairs (conditions clause), ConditionRuns condition := by
  intro condition hcondition
  have hmem : condition ∈ conditions clause :=
    (lasting_sublist _).subset (mem_lasting_iff_mem_ofPairs.2 hcondition)
  obtain ⟨constraint, hconstraint, rfl⟩ := List.mem_map.1 hmem
  obtain ⟨hne, hoperator, -⟩ := h constraint hconstraint
  exact ⟨hne, hoperator, rfl⟩

/-- The lookups of a search can all be run exactly if the joins that it keeps can. -/
theorem lookupsRun_iff (hvalid : target.Valid) (clause : Clause) :
    (∀ lookup ∈ (compiled target clause joins).lookups, LookupRuns lookup) ↔
      ∀ join, Kept joins target join → JoinRuns join := by
  have hleft : ∀ join, Kept joins target join → join.left.Valid := by
    intro join hkept
    have htarget : join.left = target := by simpa using (List.find?_some hkept)
    rwa [htarget]
  constructor
  · intro h join hkept
    have hruns := h (lookupOfJoin join) ((mem_lookups clause).2 ⟨join, hkept, rfl⟩)
    exact (lookupRuns_iff (hleft join hkept)).1 hruns
  · intro h lookup hlookup
    obtain ⟨join, hkept, rfl⟩ := (mem_lookups clause).1 hlookup
    exact (lookupRuns_iff (hleft join hkept)).2 (h join hkept)

theorem aggregate_compiled_iff {store : Store} (hstarted : store.isStarted = true)
    (hadmissible : ∀ constraint ∈ clause.constraints, Admissible constraint.1) :
    (∃ cursor, (store.aggregate target (compiled target clause joins)).result = .ok cursor) ↔
      target.Valid ∧ ∀ join, Kept joins target join → JoinRuns join := by
  obtain ⟨session, hsession⟩ := Option.isSome_iff_exists.1 hstarted
  simp only [aggregate_eq_ok_iff, ofJson_toJson_eq_ok_iff]
  constructor
  · rintro ⟨cursor, hvalid, ⟨-, hlookups⟩, -⟩
    exact ⟨hvalid, (lookupsRun_iff hvalid clause).1 hlookups⟩
  · rintro ⟨hvalid, hjoins⟩
    have hlookups := (lookupsRun_iff hvalid clause).2 hjoins
    exact ⟨_, hvalid, ⟨conditionRuns_of_admissible hadmissible, hlookups⟩, session, hsession, rfl⟩

/-- Without a session a search is refused at once, whatever it asks for. -/
theorem search_notStarted {repository : Repository} (h : repository.store.isStarted = false)
    (target : CollectionName) (clause : Clause) :
    (repository.search target clause).result = .error .notStarted := by
  simp [Repository.search, h]

theorem search_opens {repository : Repository} (hstarted : repository.store.isStarted = true)
    (hadmissible : ∀ constraint ∈ clause.constraints, Admissible constraint.1)
    (hvalid : target.Valid) (hjoins : ∀ join ∈ repository.joins, JoinRuns join) :
    ∃ cursor, (repository.search target clause).result = .ok cursor := by
  obtain ⟨session, hsession⟩ := Option.isSome_iff_exists.1 hstarted
  have hcompile : (compile target clause repository.joins).result =
      .ok (compiled target clause repository.joins) := compile_eq_ok_iff.2 ⟨hadmissible, rfl⟩
  have hlookups : ∀ lookup ∈ (compiled target clause repository.joins).lookups,
      LookupRuns lookup :=
    (lookupsRun_iff hvalid clause).2 fun join hkept =>
      hjoins join (List.mem_of_find?_eq_some hkept)
  have hread : DocStore.Pipeline.ofJson (compiled target clause repository.joins).toJson =
      .ok (normal (compiled target clause repository.joins)) :=
    ofJson_toJson_eq_ok_iff.2 ⟨conditionRuns_of_admissible hadmissible, hlookups⟩
  exact ⟨_, search_eq_ok_iff.2 ⟨session, hsession, hvalid, hcompile, hread, rfl⟩⟩

/-- What was compiled is run exactly if the target and the right collections of the joins that are
kept are valid and these joins name a field on each side; joins that are skipped do not matter. What
runs gives each document the same result as what was compiled. A clause and joins that were read from
texts meet all of this, so a search for them in a valid collection opens a cursor. -/
theorem compiled_runs_iff :
    (∀ (store : Store) (target : CollectionName) (clause : Clause) (joins : Joins)
        (pipeline : Pipeline),
      store.isStarted = true → (compile target clause joins).result = .ok pipeline →
        ((∃ cursor, (store.aggregate target pipeline).result = .ok cursor) ↔
          target.Valid ∧ ∀ join, Kept joins target join → JoinRuns join) ∧
        ∀ cursor, (store.aggregate target pipeline).result = .ok cursor →
          (clause.constraints.map (·.1)).Nodup → cursor.pipeline.apply = pipeline.apply) ∧
    ∀ (repository : Repository) (target : CollectionName) (query : String) (clause : Clause),
      Clause.parse query = .ok clause →
        (∀ join ∈ repository.joins, ∃ text, parseJoin text = .ok join) → target.Valid →
          (∀ fault, (repository.search target clause).result ≠ .error (.invalidClause fault)) ∧
          (∀ fault, (repository.search target clause).result ≠ .error (.queryFailure fault)) ∧
          (repository.store.isStarted = true →
            ∃ cursor, (repository.search target clause).result = .ok cursor) := by
  constructor
  · intro store target clause joins pipeline hstarted hcompile
    obtain ⟨hadmissible, rfl⟩ := compile_eq_ok_iff.1 hcompile
    refine ⟨aggregate_compiled_iff hstarted hadmissible, fun cursor hopened hnodup => ?_⟩
    obtain ⟨-, -, session, -, rfl⟩ := aggregate_eq_ok_iff.1 hopened
    exact apply_normal (conditions_nodup hnodup)
  · intro repository target query clause hquery hread hvalid
    have hjoins : ∀ join ∈ repository.joins, JoinRuns join := by
      intro join hjoin
      obtain ⟨text, htext⟩ := hread join hjoin
      obtain ⟨⟨-, hleft⟩, hright, hrightField⟩ := parseJoin_eq_ok htext
      exact ⟨hright, hleft, hrightField⟩
    cases hstarted : repository.store.isStarted with
    | false =>
      rw [search_notStarted hstarted]
      exact ⟨fun fault h => (nomatch h), fun fault h => (nomatch h), fun h => (nomatch h)⟩
    | true =>
      obtain ⟨cursor, hcursor⟩ := search_opens hstarted (parse_admissible hquery) hvalid hjoins
      rw [hcursor]
      exact ⟨fun fault h => (nomatch h), fun fault h => (nomatch h), fun _ => ⟨cursor, rfl⟩⟩

/-! ## A join without fields -/

/-- A join that no store could run. -/
def nowhere : Join := ⟨users, "", organizations, ""⟩

def quiet : Store := (Store.new.start "db" "first").state

/-- Behind a join into the same collection, a join without fields is skipped. -/
theorem users_nowhere_run :
    quiet.isStarted = true ∧ users.Valid ∧
    (∃ cursor, (quiet.aggregate users (compiled users .empty [byTags, nowhere])).result =
      .ok cursor) ∧
    (¬ ∃ cursor, (quiet.aggregate users (compiled users .empty [nowhere, byTags])).result =
      .ok cursor) ∧
    Clause.parse "tags=a" = .ok (.ofPairs [("tags", "a")]) ∧
    parseJoin "users.tags=organizations.tags" = .ok byTags ∧
    ∃ cursor, (Repository.search users (.ofPairs [("tags", "a")])
      ⟨quiet, [byTags], .standard⟩).result = .ok cursor := by
  have hvalid : users.Valid := by decide
  have hcompile : ∀ joins, (compile users .empty joins).result = .ok (compiled users .empty joins) :=
    fun joins => compile_eq_ok_iff.2 ⟨List.forall_mem_nil _, rfl⟩
  have hparse : Clause.parse "tags=a" = .ok (.ofPairs [("tags", "a")]) := by rfl
  have hjoin : parseJoin "users.tags=organizations.tags" = .ok byTags := by rfl
  have hjoins : ∀ join ∈ [byTags], ∃ text, parseJoin text = .ok join := by
    simpa using ⟨_, hjoin⟩
  have hruns := fun joins => (compiled_runs_iff.1 quiet users .empty joins _ rfl (hcompile joins)).1
  refine ⟨rfl, hvalid, (hruns _).2 ⟨hvalid, ?_⟩, ?_, hparse, hjoin,
    (compiled_runs_iff.2 ⟨quiet, [byTags], .standard⟩ users "tags=a" _ hparse hjoins hvalid).2.2 rfl⟩
  · intro join hkept
    have hmem : join = byTags ∨ join = nowhere := by
      simpa using List.mem_of_find?_eq_some hkept
    rcases hmem with rfl | rfl
    · exact ⟨by decide, by decide, by decide⟩
    · exact absurd hkept (by decide)
  · rw [hruns]
    rintro ⟨-, hall⟩
    exact (hall nowhere (by decide)).left_named rfl

end DocStore.Proofs.Search.Running
