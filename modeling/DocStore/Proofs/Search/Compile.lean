import DocStore.Search.Compile
import Mathlib.Data.List.Induction

/-!
# What a search is compiled to

The fields of a clause are constrained once each. The lookups are those of the first join into each
right collection, and their outputs differ, because with one left collection the name of an output
gives away the right one.
-/
namespace DocStore.Proofs.Search.Compile

open DocStore.Search (addJoin checkField compile conditions lookupOfJoin)

theorem joinedField_injective (left : CollectionName) {right right' : CollectionName}
    (h : left.joinedField right = left.joinedField right') : right = right' := by
  obtain ⟨text⟩ := right
  obtain ⟨text'⟩ := right'
  have htext : text = text' := by
    simpa [CollectionName.joinedField, String.append_right_inj, toString] using h
  rw [htext]

/-! ## The first item with each key -/

section First

variable {α κ : Type} [DecidableEq κ] {key : α → κ} {item : α} {items : List α}

/-- The first item with each key, in order. -/
def firstPer (key : α → κ) : List α → List α
  | [] => []
  | item :: rest => item :: (firstPer key rest).filter (key · ≠ key item)

theorem mem_firstPer : item ∈ firstPer key items ↔ items.find? (key · = key item) = some item := by
  induction items with
  | nil => simp [firstPer]
  | cons first rest ih =>
    by_cases hkey : key first = key item
    · simp [firstPer, hkey, eq_comm]
    · have hne : item ≠ first := by
        rintro rfl
        exact hkey rfl
      simp [firstPer, ih, hkey, hne, Ne.symm hkey]

theorem firstPer_sublist (key : α → κ) (items : List α) :
    (firstPer key items).Sublist items := by
  induction items with
  | nil => exact List.Sublist.refl _
  | cons first rest ih => exact (List.filter_sublist.trans ih).cons_cons first

theorem firstPer_nodup (key : α → κ) (items : List α) : ((firstPer key items).map key).Nodup := by
  induction items with
  | nil => exact List.nodup_nil
  | cons first rest ih =>
    refine List.nodup_cons.2 ⟨by simp, ?_⟩
    exact ih.sublist (List.filter_sublist.map _)

theorem mem_map_firstPer {k : κ} : k ∈ (firstPer key items).map key ↔ k ∈ items.map key := by
  constructor
  · exact fun h => ((firstPer_sublist key items).map key).subset h
  · intro h
    obtain ⟨item, hitem, rfl⟩ := List.mem_map.1 h
    have hsome : (items.find? (key · = key item)).isSome :=
      List.find?_isSome.2 ⟨item, hitem, by simp⟩
    obtain ⟨first, hfirst⟩ := Option.isSome_iff_exists.1 hsome
    have hkey : key first = key item := by simpa using List.find?_some hfirst
    refine List.mem_map.2 ⟨first, mem_firstPer.2 ?_, hkey⟩
    rwa [hkey]

theorem find?_firstPer (key : α → κ) (items : List α) (k : κ) :
    (firstPer key items).find? (key · = k) = items.find? (key · = k) := by
  induction items with
  | nil => rfl
  | cons first rest ih =>
    by_cases hkey : key first = k
    · simp [firstPer, hkey]
    · have hother : ∀ item, (key item ≠ key first ∧ key item = k) ↔ key item = k := by
        intro item
        refine and_iff_right_of_imp ?_
        rintro rfl
        exact Ne.symm hkey
      simp [firstPer, hkey, List.find?_filter, hother, ← ih]

theorem firstPer_of_nodup (h : (items.map key).Nodup) : firstPer key items = items := by
  induction items with
  | nil => rfl
  | cons first rest ih =>
    obtain ⟨hfirst, hrest⟩ := List.nodup_cons.1 h
    rw [firstPer, ih hrest, List.filter_eq_self.2]
    intro item hitem
    have hkey : key item ≠ key first := fun heq => hfirst (heq ▸ List.mem_map_of_mem hitem)
    simpa using hkey

/-- A last item counts only if its key is new. -/
theorem firstPer_concat (key : α → κ) (items : List α) (item : α) :
    firstPer key (items ++ [item]) =
      firstPer key items ++ if key item ∈ items.map key then [] else [item] := by
  induction items with
  | nil => simp [firstPer]
  | cons first rest ih =>
    rw [List.cons_append, firstPer, firstPer, ih, List.filter_append, List.cons_append]
    by_cases hkey : key item = key first
    · by_cases hrest : key item ∈ rest.map key <;> simp [hkey]
    · by_cases hrest : key item ∈ rest.map key <;> simp [hkey, hrest]

end First

/-! ## Clauses -/

theorem isSome_get?_iff {clause : Clause} {field : String} :
    (clause.get? field).isSome ↔ field ∈ clause.constraints.map (·.1) := by
  simp [Clause.get?]

theorem constraints_adding (clause : Clause) (pair : String × String) :
    (clause.adding pair).constraints =
      clause.constraints ++ if pair.1 ∈ clause.constraints.map (·.1) then [] else [pair] := by
  unfold Clause.adding Clause.insert
  by_cases hmem : pair.1 ∈ clause.constraints.map (·.1)
  · rw [if_pos (isSome_get?_iff.2 hmem), if_pos hmem, List.append_nil]
  · rw [if_neg (mt isSome_get?_iff.1 hmem), if_neg hmem]

theorem ofPairs_concat (pairs : List (String × String)) (pair : String × String) :
    Clause.ofPairs (pairs ++ [pair]) = (Clause.ofPairs pairs).adding pair :=
  List.foldl_append ..

/-- Of all values that a field was to have, the first one counts. -/
theorem constraints_ofPairs (pairs : List (String × String)) :
    (Clause.ofPairs pairs).constraints = firstPer (·.1) pairs := by
  induction pairs using List.reverseRecOn with
  | nil => rfl
  | append_singleton earlier pair ih =>
    rw [ofPairs_concat, constraints_adding, ih, firstPer_concat]
    simp only [mem_map_firstPer]

/-- However a clause was put together, each of its fields is constrained once. -/
theorem ofPairs_nodup (pairs : List (String × String)) :
    ((Clause.ofPairs pairs).constraints.map (·.1)).Nodup := by
  rw [constraints_ofPairs]
  exact firstPer_nodup _ pairs

/-! ## Joins -/

/-- The output of a join is filled if one of the joins before leads into the same collection. -/
theorem find?_output {left : CollectionName} {join : Join} (hjoin : join.left = left)
    {joins : List Join} (hleft : ∀ other ∈ joins, other.left = left) :
    (((joins.map lookupOfJoin).find? (·.output = join.output)).isSome ↔
      join.right ∈ joins.map (·.right)) := by
  simp only [List.find?_isSome, List.mem_map, decide_eq_true_eq]
  constructor
  · rintro ⟨_, ⟨other, hother, rfl⟩, houtput⟩
    refine ⟨other, hother, joinedField_injective left ?_⟩
    simpa [lookupOfJoin, Join.output, hleft other hother, hjoin] using houtput
  · rintro ⟨other, hother, hright⟩
    refine ⟨_, ⟨other, hother, rfl⟩, ?_⟩
    simp [lookupOfJoin, Join.output, hleft other hother, hjoin, hright]

theorem addJoin_fst (before : List Lookup × List Line) (join : Join) :
    (addJoin before join).1 = before.1 ++
      if (before.1.find? (·.output = join.output)).isSome then [] else [lookupOfJoin join] := by
  obtain ⟨lookups, warnings⟩ := before
  cases hfind : lookups.find? (·.output = join.output) <;> simp [addJoin, hfind]

/-- A run of `addJoin` adds a lookup for the first join into each right collection. -/
theorem foldl_addJoin {left : CollectionName} {joins : List Join}
    (hleft : ∀ join ∈ joins, join.left = left) :
    (joins.foldl addJoin ([], [])).1 = (firstPer (·.right) joins).map lookupOfJoin := by
  -- From the end: whether the last join is skipped depends on all those before it.
  induction joins using List.reverseRecOn with
  | nil => rfl
  | append_singleton earlier join ih =>
    obtain ⟨hearlier, hjoin⟩ := List.forall_mem_append.1 hleft
    have hkept : ∀ other ∈ firstPer (·.right) earlier, other.left = left := fun other h =>
      hearlier other ((firstPer_sublist _ _).subset h)
    have hfilled := find?_output (hjoin join List.mem_cons_self) hkept
    rw [List.foldl_append, List.foldl_cons, List.foldl_nil, addJoin_fst, ih hearlier,
      firstPer_concat, List.map_append]
    simp only [hfilled, mem_map_firstPer]
    split <;> rfl

/-! ## Compilation -/

/-- A field that a clause may constrain. -/
def Admissible (field : String) : Prop :=
  field ≠ "" ∧ Text.startsWith field '$' = false ∧ Text.contains field '\x00' = false

theorem checkField_eq_ok_iff {field : String} : checkField field = .ok () ↔ Admissible field := by
  unfold checkField Admissible
  by_cases hempty : field = ""
  · simp [hempty]
  · cases Text.startsWith field '$' <;> cases Text.contains field '\x00' <;> simp [hempty]

/-- The pipeline of a search that compiles: of the joins into each right collection the first one is
run. -/
def compiled (target : CollectionName) (clause : Clause) (joins : Joins) : Pipeline where
  conditions := conditions clause
  lookups := (firstPer (·.right) (joins.of target)).map lookupOfJoin

theorem left_of_mem_of {target : CollectionName} {joins : Joins} {join : Join}
    (h : join ∈ joins.of target) : join.left = target := by
  simpa using (List.mem_filter.1 h).2

theorem compile_eq {target : CollectionName} {clause : Clause} {joins : Joins}
    {pipeline : Pipeline} (h : (compile target clause joins).result = .ok pipeline) :
    pipeline = compiled target clause joins := by
  unfold compile at h
  split at h
  · cases h
  · change Except.ok ⟨conditions clause, ((joins.of target).foldl addJoin ([], [])).1⟩ =
      Except.ok pipeline at h
    obtain rfl := Except.ok.inj h
    rw [foldl_addJoin fun _ => left_of_mem_of]
    rfl

/-- The clause alone decides whether a search compiles. -/
theorem compile_eq_ok_iff {target : CollectionName} {clause : Clause} {joins : Joins}
    {pipeline : Pipeline} :
    (compile target clause joins).result = .ok pipeline ↔
      (∀ constraint ∈ clause.constraints, Admissible constraint.1) ∧
        pipeline = compiled target clause joins := by
  have hcheck : (clause.constraints.forM fun constraint => checkField constraint.1) = .ok () ↔
      ∀ constraint ∈ clause.constraints, Admissible constraint.1 := by
    rw [forM_eq_ok_iff]
    exact forall₂_congr fun _ _ => checkField_eq_ok_iff
  constructor
  · intro h
    refine ⟨?_, compile_eq h⟩
    rw [← hcheck]
    unfold compile at h
    split at h
    · cases h
    · assumption
  · rintro ⟨hall, rfl⟩
    cases hresult : (compile target clause joins).result with
    | ok pipeline => rw [compile_eq hresult]
    | error error =>
      unfold compile at hresult
      rw [hcheck.2 hall] at hresult
      cases hresult

theorem outputs_nodup (target : CollectionName) (clause : Clause) (joins : Joins) :
    ((compiled target clause joins).lookups.map (·.output)).Nodup := by
  have houtputs : (compiled target clause joins).lookups.map (·.output) =
      ((firstPer (·.right) (joins.of target)).map (·.right)).map target.joinedField := by
    simp only [compiled, List.map_map]
    apply List.map_congr_left
    intro join hjoin
    simp [lookupOfJoin, Join.output, left_of_mem_of ((firstPer_sublist _ _).subset hjoin)]
  rw [houtputs]
  refine List.pairwise_map.2 ((firstPer_nodup (·.right) (joins.of target)).imp ?_)
  intro right right' hne heq
  exact hne (joinedField_injective target heq)

/-- The lookups are those of the joins that come first among all with their left and right
collections. -/
theorem mem_lookups {target : CollectionName} (clause : Clause) {joins : Joins} {lookup : Lookup} :
    lookup ∈ (compiled target clause joins).lookups ↔
      ∃ join, joins.find? (fun other => other.left = target ∧ other.right = join.right) = some join ∧
        lookup = lookupOfJoin join := by
  simp only [compiled, List.mem_map, mem_firstPer, Joins.of, List.find?_filter]
  constructor
  · rintro ⟨join, hfind, rfl⟩
    exact ⟨join, by simpa using hfind, rfl⟩
  · rintro ⟨join, hfind, rfl⟩
    exact ⟨join, by simpa using hfind, rfl⟩

end DocStore.Proofs.Search.Compile
