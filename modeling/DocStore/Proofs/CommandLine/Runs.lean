import DocStore.CommandLine.Run
import DocStore.Proofs.Store.Draining

/-!
# Runs on a console

A run takes a console to another one, and ends with a value or with a failure. What is printed
before a failure stays printed. From a list of loads, either all succeed or there is a first one
that fails, and the run ends there. A cursor that yields documents has all of them taken into account.
-/
namespace DocStore.Proofs.CommandLine.Runs

open DocStore.CommandLine DocStore.CommandLine.Run
open Store.Draining

variable {α β σ : Type} {level : Level} {doing : String}

/-! ## Runs and their consoles -/

/-- The log lines that the level lets through, as they are printed. -/
def logged (level : Level) (lines : List Line) : List String :=
  (admitted level lines).map Line.render

/-- A console after further notes. -/
def noted (console : Console) (lines : List String) : Console :=
  { console with notes := console.notes ++ lines }

theorem noted_nil (console : Console) : noted console [] = console := by
  rw [noted, List.append_nil]

theorem noted_noted (console : Console) (lines more : List String) :
    noted (noted console lines) more = noted console (lines ++ more) := by
  simp only [noted, List.append_assoc]

theorem on_bind_ok {run : Run α} {console after : Console} {value : α}
    (h : run.on console = (.ok value, after)) (next : α → Run β) :
    (run >>= next).on console = (next value).on after := by
  unfold Run.on at h ⊢
  rw [ExceptT.run_bind, StateT.run_bind, h]
  rfl

theorem on_bind_error {run : Run α} {console after : Console} {failure : Failure}
    (h : run.on console = (.error failure, after)) (next : α → Run β) :
    (run >>= next).on console = (.error failure, after) := by
  unfold Run.on at h ⊢
  rw [ExceptT.run_bind, StateT.run_bind, h]
  rfl

theorem on_printNote (line : String) (console : Console) :
    (printNote line).on console = (.ok (), noted console [line]) := rfl

theorem on_printLog (level : Level) (lines : List Line) (console : Console) :
    (printLog level lines).on console = (.ok (), noted console (logged level lines)) := by
  unfold printLog logged
  induction (admitted level lines).map Line.render generalizing console with
  | nil => rw [noted_nil]; rfl
  | cons line rest ih =>
    have hcons : (line :: rest).forM printNote = printNote line >>= fun _ => rest.forM printNote :=
      rfl
    rw [hcons, on_bind_ok (on_printNote line console), ih, noted_noted]
    rfl

/-- An operation that succeeds gives its result, and its log lines are noted. -/
theorem on_outcome_ok {outcome : Outcome σ α} {value : α} (h : outcome.result = .ok value)
    (console : Console) :
    (Run.outcome level doing outcome).on console =
      (.ok (value, outcome.state), noted console (logged level outcome.lines)) := by
  unfold Run.outcome
  rw [on_bind_ok (on_printLog level outcome.lines console), h]
  rfl

theorem on_outcome_error {outcome : Outcome σ α} {error : Error} (h : outcome.result = .error error)
    (console : Console) :
    (Run.outcome level doing outcome).on console =
      (.error ⟨doing, error⟩, noted console (logged level outcome.lines)) := by
  unfold Run.outcome
  rw [on_bind_ok (on_printLog level outcome.lines console), h]
  rfl

theorem on_report_ok {report : Report α} {value : α} (h : report.result = .ok value)
    (console : Console) :
    (Run.report level doing report).on console =
      (.ok value, noted console (logged level report.lines)) := by
  unfold Run.report
  rw [on_bind_ok (on_printLog level report.lines console), h]
  rfl

theorem on_report_error {report : Report α} {error : Error} (h : report.result = .error error)
    (console : Console) :
    (Run.report level doing report).on console =
      (.error ⟨doing, error⟩, noted console (logged level report.lines)) := by
  unfold Run.report
  rw [on_bind_ok (on_printLog level report.lines console), h]
  rfl

theorem on_orFail_parsed {clause : Clause} (next : Clause → Run β) (doing : String)
    (console : Console) :
    (orFail doing ((Except.ok clause).mapError Error.invalidClause) >>= next).on console =
      (next clause).on console := rfl

/-! ## Loads that follow each other -/

variable {surroundings : Surroundings} {repository middle last : Repository} {notes : List String}
variable {load : LoadSpec} {loads before later : List LoadSpec}

/-- All loads succeed, one after the other. For each of them its log lines are noted and then the
line that tells that it is loaded. -/
inductive LoadsAll (surroundings : Surroundings) (level : Level) :
    Repository → List LoadSpec → Repository → List String → Prop
  | nil {repository : Repository} : LoadsAll surroundings level repository [] repository []
  | cons {repository last : Repository} {load : LoadSpec} {more : List LoadSpec}
      {summary : Summary} {notes : List String} :
      (loadUntyped surroundings load repository).result = .ok summary →
      LoadsAll surroundings level (loadUntyped surroundings load repository).state more last notes →
      LoadsAll surroundings level repository (load :: more) last
        (logged level (loadUntyped surroundings load repository).lines ++
          loadedNote summary :: notes)

/-- Loads behind those that succeed go on from there. -/
theorem LoadsAll.loadAll_on (h : LoadsAll surroundings level repository before middle notes)
    (later : List LoadSpec) (console : Console) :
    (loadAll surroundings level (before ++ later) repository).on console =
      (loadAll surroundings level later middle).on (noted console notes) := by
  induction h generalizing console with
  | nil => rw [noted_nil, List.nil_append]
  | @cons repository last load more summary notes hload _ ih =>
    rw [List.cons_append, loadAll, on_bind_ok (on_outcome_ok hload console),
      on_bind_ok (on_printNote (loadedNote summary) _), ih, noted_noted, noted_noted]
    rfl

theorem loadAll_on_failed {error : Error}
    (h : (loadUntyped surroundings load repository).result = .error error)
    (later : List LoadSpec) (console : Console) :
    (loadAll surroundings level (load :: later) repository).on console =
      (.error ⟨loadingDoing load, error⟩,
        noted console (logged level (loadUntyped surroundings load repository).lines)) := by
  rw [loadAll]
  exact on_bind_error (on_outcome_error h console) _

/-- Either all loads succeed or there is a first one that fails. -/
theorem loadsAll_or (surroundings : Surroundings) (level : Level) (loads : List LoadSpec)
    (repository : Repository) :
    (∃ last notes, LoadsAll surroundings level repository loads last notes) ∨
    (∃ before load later middle notes error, loads = before ++ load :: later ∧
      LoadsAll surroundings level repository before middle notes ∧
      (loadUntyped surroundings load middle).result = .error error) := by
  induction loads generalizing repository with
  | nil => exact .inl ⟨repository, [], .nil⟩
  | cons load more ih =>
    cases hload : (loadUntyped surroundings load repository).result with
    | error error => exact .inr ⟨[], load, more, repository, [], error, rfl, .nil, hload⟩
    | ok summary =>
      rcases ih (loadUntyped surroundings load repository).state with
        ⟨last, notes, hall⟩ | ⟨before, failing, later, middle, notes, error, rfl, hall, herror⟩
      · exact .inl ⟨last, _, .cons hload hall⟩
      · exact .inr ⟨load :: before, failing, later, middle, _, error, rfl, .cons hload hall, herror⟩

/-! ## Results as they come -/

variable {store : DocStore.Store} {cursor : Cursor} {documents : List Json}

/-- What is done with each document, told by what is known after it and the lines it is shown in. -/
def Does (each : β → Json → Run β) (step : β → Json → β) (shown : Json → List String) : Prop :=
  ∀ taken document console, (each taken document).on console =
    (.ok (step taken document), { console with results := console.results ++ shown document })

/-- Each document that a cursor yields is taken into account, and none of its calls fails. -/
theorem Does.forResults_on {each : β → Json → Run β} {step : β → Json → β}
    {shown : Json → List String} (hdoes : Does each step shown)
    (h : Yields store cursor documents) {fuel : Nat} (hfuel : documents.length < fuel) (taken : β)
    (console : Console) :
    ∃ read, (forResults level doing store each fuel cursor taken).on console =
      (.ok (documents.foldl step taken),
        ⟨console.results ++ documents.flatMap shown, console.notes ++ read⟩) := by
  induction h generalizing fuel taken console with
  | @ended cursor hnone =>
    obtain ⟨fuel, rfl⟩ : ∃ n, fuel = n + 1 := ⟨fuel - 1, by omega⟩
    refine ⟨logged level (cursor.next store).lines, ?_⟩
    rw [forResults, on_bind_ok (on_outcome_ok hnone console), List.flatMap_nil, List.append_nil]
    rfl
  | @more cursor document documents hsome _ ih =>
    obtain ⟨fuel, rfl⟩ : ∃ n, fuel = n + 1 := ⟨fuel - 1, by omega⟩
    have hrest : documents.length < fuel := Nat.lt_of_succ_lt_succ hfuel
    obtain ⟨read, hread⟩ := ih hrest (step taken document)
      { noted console (logged level (cursor.next store).lines) with
        results := console.results ++ shown document }
    refine ⟨logged level (cursor.next store).lines ++ read, ?_⟩
    rw [forResults, on_bind_ok (on_outcome_ok hsome console)]
    simp only
    rw [on_bind_ok (hdoes taken document _)]
    refine hread.trans ?_
    simp only [noted, List.foldl_cons, List.flatMap_cons, List.append_assoc]

end DocStore.Proofs.CommandLine.Runs
