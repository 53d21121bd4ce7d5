import DocStore.Proofs.Search.Insertions
import DocStore.Proofs.Search.Results

/-!
# What a compilation leaves out

Of the constraints on one field only the first gets into a pipeline, and of the joins of the target
into one collection too. Each of the others is answered with one warning. So whatever a clause was
given and whatever was declared for the target is either in the pipeline or among the warnings.
-/
namespace DocStore.Proofs.Search.Omissions

open DocStore.Search (addJoin compile compiledLine duplicateWarning lookupOfJoin skippedWarning)
open Compile
open Insertions (length_ofPairs)
open Results (organizations users)

/-- The joins after these declarations, one after the other. -/
def declared (declarations : List Join) : Joins :=
  declarations.foldl (fun joins join => joins.declare join) []

def warnings (lines : List Line) : Nat := lines.countP (·.level = .warn)

/-- Whatever is first of its kind is in the pipeline, and there is a warning for whatever is not. -/
structure KeepsFirst (target : CollectionName) (pairs : List (String × String))
    (declarations : List Join) (pipeline : Pipeline) (lines : List Line) : Prop where
  conditions : pipeline.conditions = (firstPer (·.1) pairs).map fun pair => (pair.1, .str pair.2)
  lookups : pipeline.lookups =
    (firstPer (·.right) (declarations.filter (·.left = target))).map fun join =>
      { collection := join.right
        localField := join.leftField
        foreignField := join.rightField
        output := s!"{target.text}_{join.right.text}" }
  distinct : (pipeline.lookups.map (·.output)).Nodup
  warned : ∀ logger : Logger, Level.warn.within logger.level = true →
    warnings (logger.logAll lines).taken =
      warnings logger.taken + (pairs.length - pipeline.conditions.length) +
        ((declarations.filter (·.left = target)).length - pipeline.lookups.length)

variable {target : CollectionName} {pairs : List (String × String)} {declarations : List Join}

theorem declared_eq (declarations : List Join) : declared declarations = declarations := by
  induction declarations using List.reverseRecOn with
  | nil => rfl
  | append_singleton earlier join ih =>
    rw [declared, List.foldl_append]
    exact congrArg (· ++ [join]) ih

/-! ## Kept or dropped -/

theorem warnings_append (lines more : List Line) :
    warnings (lines ++ more) = warnings lines + warnings more := List.countP_append

/-- Each join gets its lookup or its warning. -/
theorem warnings_addJoin (before : List Lookup × List Line) (join : Join) :
    (addJoin before join).1.length + warnings (addJoin before join).2 =
      before.1.length + warnings before.2 + 1 := by
  obtain ⟨lookups, lines⟩ := before
  cases hfind : lookups.find? (·.output = join.output) with
  | some kept =>
    have hskipped : warnings [skippedWarning join kept] = 1 := rfl
    simp only [addJoin, hfind, warnings_append, hskipped]
    omega
  | none =>
    simp only [addJoin, hfind, List.length_append, List.length_singleton]
    omega

theorem warnings_foldl_addJoin (joins : List Join) (before : List Lookup × List Line) :
    (joins.foldl addJoin before).1.length + warnings (joins.foldl addJoin before).2 =
      before.1.length + warnings before.2 + joins.length := by
  induction joins generalizing before with
  | nil => rfl
  | cons join rest ih =>
    rw [List.foldl_cons, ih, warnings_addJoin, List.length_cons]
    omega

/-! ## What is logged -/

theorem warnings_duplicates (fields : List String) :
    warnings (fields.map duplicateWarning) = fields.length := by
  induction fields with
  | nil => rfl
  | cons field rest ih =>
    rw [List.map_cons, warnings, List.countP_cons_of_pos (by rfl)]
    exact congrArg (· + 1) ih

/-- There is one warning for each duplicate of the clause and for each join that is skipped. -/
theorem warnings_compile {clause : Clause} {joins : Joins} {pipeline : Pipeline}
    (h : (compile target clause joins).result = .ok pipeline) :
    warnings (compile target clause joins).lines + pipeline.lookups.length =
      clause.duplicates.length + (joins.of target).length := by
  unfold compile at h ⊢
  split at h
  · cases h
  · obtain rfl := Except.ok.inj h
    have hcount := warnings_foldl_addJoin (joins.of target) ([], [])
    have hnone : warnings [] = 0 := rfl
    have hlast : ∀ pipeline, warnings [compiledLine target pipeline] = 0 := fun _ => rfl
    rw [List.length_nil, hnone] at hcount
    simp only [warnings_append, warnings_duplicates, hlast]
    omega

/-- A logger takes the lines that its level lets through, and keeps its level. -/
theorem taken_logAll (lines : List Line) (logger : Logger) :
    (logger.logAll lines).taken = logger.taken ++ admitted logger.level lines := by
  induction lines generalizing logger with
  | nil => exact (List.append_nil _).symm
  | cons line rest ih =>
    change ((logger.log line).logAll rest).taken = _
    rw [ih]
    by_cases hwithin : line.level.within logger.level
    · simp [Logger.log, admitted, hwithin]
    · simp [Logger.log, admitted, hwithin]

theorem warnings_logAll {logger : Logger} (h : Level.warn.within logger.level = true)
    (lines : List Line) :
    warnings (logger.logAll lines).taken = warnings logger.taken + warnings lines := by
  have hadmitted : warnings (admitted logger.level lines) = warnings lines := by
    simp only [warnings, admitted, List.countP_filter]
    apply List.countP_congr
    intro line _
    simp only [Bool.and_eq_true, decide_eq_true_eq]
    constructor
    · exact fun hline => hline.1
    · intro hwarn
      exact ⟨hwarn, hwarn ▸ h⟩
  rw [taken_logAll, warnings_append, hadmitted]

/-! ## Compilation -/

theorem keepsFirst_of_compile {pipeline : Pipeline}
    (h : (compile target (.ofPairs pairs) declarations).result = .ok pipeline) :
    KeepsFirst target pairs declarations pipeline
      (compile target (.ofPairs pairs) declarations).lines := by
  have hwarnings := warnings_compile h
  have hlength := length_ofPairs pairs
  obtain rfl := compile_eq h
  have hconditions : (compiled target (.ofPairs pairs) declarations).conditions.length =
      (Clause.ofPairs pairs).constraints.length := List.length_map _
  refine ⟨?_, ?_, outputs_nodup target (.ofPairs pairs) declarations, ?_⟩
  · exact congrArg (List.map _) (constraints_ofPairs pairs)
  · rw [compiled]
    apply List.map_congr_left
    intro join hjoin
    have hleft := left_of_mem_of ((firstPer_sublist _ _).subset hjoin)
    simp [lookupOfJoin, Join.output, CollectionName.joinedField, hleft, toString]
  · intro logger hlevel
    have hof : (Joins.of target declarations).length =
        (declarations.filter (·.left = target)).length := rfl
    have hlookups : (compiled target (.ofPairs pairs) declarations).lookups.length ≤
        (Joins.of target declarations).length := by
      rw [compiled, List.length_map]
      exact (firstPer_sublist _ _).length_le
    rw [warnings_logAll hlevel]
    omega

/-- A field is constrained if one of the pairs that were put in constrains it. -/
theorem forall_constraints_iff {p : String → Prop} :
    (∀ constraint ∈ (Clause.ofPairs pairs).constraints, p constraint.1) ↔
      ∀ pair ∈ pairs, p pair.1 := by
  have hfields : ∀ items : List (String × String),
      (∀ pair ∈ items, p pair.1) ↔ ∀ field ∈ items.map (·.1), p field :=
    fun _ => List.forall_mem_map.symm
  simp only [hfields, constraints_ofPairs, mem_map_firstPer]

/-- A compilation fails with nothing to say, or it succeeds. -/
theorem compile_cases (target : CollectionName) (clause : Clause) (joins : Joins) :
    (∃ fault, compile target clause joins = ⟨.error (.invalidClause fault), []⟩) ∨
      ∃ pipeline, (compile target clause joins).result = .ok pipeline := by
  unfold compile
  split
  · exact .inl ⟨_, rfl⟩
  · exact .inr ⟨_, rfl⟩

theorem compile_congr {joins joins' : Joins} (h : joins.of target = joins'.of target)
    (clause : Clause) : compile target clause joins = compile target clause joins' := by
  unfold compile
  rw [h]

/-- A compilation fails, and says nothing, exactly if a field that is to be constrained is not
admissible. Otherwise its pipeline has the first constraint on each field and the first join of the
target into each collection, in the order in which they came, with a warning for each of the others.
Joins of other collections do not matter. -/
theorem compile_keeps_first (target : CollectionName) (pairs : List (String × String))
    (declarations : List Join) :
    ((∃ fault, (compile target (.ofPairs pairs) (declared declarations)).result =
        .error (.invalidClause fault)) ↔ ∃ pair ∈ pairs, ¬ Admissible pair.1) ∧
    ((∃ pair ∈ pairs, ¬ Admissible pair.1) →
      (compile target (.ofPairs pairs) (declared declarations)).lines = []) ∧
    ((∀ pair ∈ pairs, Admissible pair.1) → ∃ pipeline,
      (compile target (.ofPairs pairs) (declared declarations)).result = .ok pipeline ∧
      KeepsFirst target pairs declarations pipeline
        (compile target (.ofPairs pairs) (declared declarations)).lines) ∧
    ∀ others : List Join,
      others.filter (·.left = target) = declarations.filter (·.left = target) →
        compile target (.ofPairs pairs) (declared others) =
          compile target (.ofPairs pairs) (declared declarations) := by
  have hok : (∃ pipeline, (compile target (.ofPairs pairs) declarations).result = .ok pipeline) ↔
      ∀ pair ∈ pairs, Admissible pair.1 := by
    simp only [compile_eq_ok_iff, exists_and_left, exists_eq, and_true]
    exact forall_constraints_iff
  have hsome : (∃ pair ∈ pairs, ¬ Admissible pair.1) ↔ ¬ ∀ pair ∈ pairs, Admissible pair.1 := by
    simp only [not_forall, exists_prop]
  simp only [declared_eq, hsome, ← hok]
  refine ⟨?_, ?_, ?_, fun others h => compile_congr h _⟩
  · rcases compile_cases target (.ofPairs pairs) declarations with ⟨fault, hfault⟩ | hpipeline
    · simp [hfault]
    · obtain ⟨pipeline, hresult⟩ := hpipeline
      simp [hresult]
  · intro hfails
    rcases compile_cases target (.ofPairs pairs) declarations with ⟨fault, hfault⟩ | hpipeline
    · rw [hfault]
    · exact absurd hpipeline hfails
  · rintro ⟨pipeline, hpipeline⟩
    exact ⟨pipeline, hpipeline, keepsFirst_of_compile hpipeline⟩

/-! ## Two names and two employers -/

def employer : Join := ⟨users, "employer", organizations, "_id"⟩

def owner : Join := ⟨organizations, "owner", users, "_id"⟩

def formerEmployer : Join := ⟨users, "formerEmployer", organizations, "_id"⟩

def twoNames : List (String × String) := [("name", "a"), ("age", "1"), ("name", "b")]

theorem second_name_and_employer_left_out :
    (∀ pair ∈ twoNames, Admissible pair.1) ∧
    (∃ pipeline, (compile users (.ofPairs twoNames)
        (declared [employer, owner, formerEmployer])).result = .ok pipeline ∧
      pipeline.conditions = [("name", .str "a"), ("age", .str "1")] ∧
      pipeline.lookups = [⟨organizations, "employer", "_id", "users_organizations"⟩] ∧
      warnings ((Logger.new .warn .memory).logAll (compile users (.ofPairs twoNames)
        (declared [employer, owner, formerEmployer])).lines).taken = 2) ∧
    compile users (.ofPairs twoNames) (declared [employer, formerEmployer, owner]) =
      compile users (.ofPairs twoNames) (declared [employer, owner, formerEmployer]) ∧
    (∃ pair ∈ [("name", "a"), ("$where", "1")], ¬ Admissible pair.1) ∧
    (compile users (.ofPairs [("name", "a"), ("$where", "1")]) (declared [employer])).lines = [] := by
  have hadmissible : ∀ pair ∈ twoNames, Admissible pair.1 := by
    simp only [twoNames, List.forall_mem_cons]
    exact ⟨⟨by decide, by decide, by decide⟩, ⟨by decide, by decide, by decide⟩,
      ⟨by decide, by decide, by decide⟩, List.forall_mem_nil _⟩
  have hwhere : ∃ pair ∈ [("name", "a"), ("$where", "1")], ¬ Admissible pair.1 :=
    ⟨("$where", "1"), by simp, fun h => absurd h.2.1 (by decide)⟩
  obtain ⟨-, -, hkeeps, hothers⟩ :=
    compile_keeps_first users twoNames [employer, owner, formerEmployer]
  obtain ⟨pipeline, hpipeline, hfirst⟩ := hkeeps hadmissible
  have hconditions : pipeline.conditions = [("name", .str "a"), ("age", .str "1")] :=
    hfirst.conditions.trans (by rfl)
  have hlookups : pipeline.lookups =
      [⟨organizations, "employer", "_id", "users_organizations"⟩] :=
    hfirst.lookups.trans (by decide)
  have hwarned := hfirst.warned (Logger.new .warn .memory) rfl
  rw [hconditions, hlookups] at hwarned
  exact ⟨hadmissible, ⟨pipeline, hpipeline, hconditions, hlookups, hwarned⟩,
    hothers _ (by decide), hwhere, (compile_keeps_first users _ [employer]).2.1 hwhere⟩

end DocStore.Proofs.Search.Omissions
