import DocStore.Proofs.CommandLine.Runs
import DocStore.Proofs.CommandLine.Lines
import DocStore.Proofs.Search.RoundTrip

/-!
# What a search prints

A search from the command line may fail in a load, in its query or when its cursor is opened, all
before the first result is printed. From then on every call of the cursor answers with a result, up
to the end. So either all results are printed or none.
-/
namespace DocStore.Proofs.CommandLine.Printing

open DocStore.CommandLine DocStore.CommandLine.Run
open Lines (newline_notMem_render)
open Runs Search.Results Store.Draining

variable {level : Level} {doing : String} {surroundings : Surroundings}
variable {repository last : Repository} {loads : List LoadSpec} {notes : List String}

/-! ## Results that are printed as they come -/

variable {store : DocStore.Store} {cursor : Cursor} {documents : List Json}

theorem does_showResult :
    Does showResult (fun total _ => total + 1) fun document => [document.render] :=
  fun _ _ _ => rfl

/-- A cursor that yields documents has each of them printed, and none of its calls fails. -/
theorem forResults_showResult (h : Yields store cursor documents) {fuel : Nat}
    (hfuel : documents.length < fuel) (total : Nat) (console : Console) :
    ∃ read, (forResults level doing store showResult fuel cursor total).on console =
      (.ok (total + documents.length),
        ⟨console.results ++ documents.map Json.render, console.notes ++ read⟩) := by
  obtain ⟨read, hread⟩ := does_showResult.forResults_on h hfuel total console
  refine ⟨read, hread.trans ?_⟩
  rw [List.foldl_add_const, List.map_eq_flatMap, Nat.one_mul]

/-! ## All results or none -/

variable {collection query : String} {clause : Clause}

/-- Once a cursor is open, all of its results are printed and counted. -/
theorem printSearch_on (hquery : Clause.parse query = .ok clause)
    (hsearch : (repository.search ⟨collection⟩ clause).result = .ok cursor) (console : Console) :
    ∃ documents read, Yields repository.store cursor documents ∧
      (cursor.drain repository.store).2.1 = documents.map .ok ∧
      (printSearch level collection query repository).on console =
        (.ok (), ⟨console.results ++ documents.map Json.render,
          console.notes ++ read ++ [totalNote documents.length collection]⟩) := by
  obtain ⟨session, hsession, -, -, -, rfl⟩ := search_eq_ok_iff.1 hsearch
  have hlive : Live repository.store session (Search.Results.cursorOf ⟨collection⟩ clause
      repository.joins repository.store session) := cursorOf_live hsession
  generalize Search.Results.cursorOf ⟨collection⟩ clause repository.joins repository.store
    session = cursor at hsearch hlive
  obtain ⟨read, hread⟩ := forResults_showResult (yields_remaining hlive)
    (Nat.lt_succ_of_lt (length_remaining_lt hlive)) 0
    (noted console (logged level (repository.search ⟨collection⟩ clause).lines))
  refine ⟨remaining session cursor,
    logged level (repository.search ⟨collection⟩ clause).lines ++ read, yields_remaining hlive,
    drain_eq hlive, ?_⟩
  rw [printSearch, hquery, on_orFail_parsed, on_bind_ok (on_report_ok hsearch console), allResults,
    on_bind_ok hread, Nat.zero_add]
  simp only [on_printNote, noted, List.append_assoc]

theorem printSearch_refused
    (h : ∀ clause cursor, Clause.parse query = .ok clause →
      (repository.search ⟨collection⟩ clause).result ≠ .ok cursor) (console : Console) :
    ∃ failure read, (printSearch level collection query repository).on console =
      (.error failure, noted console read) := by
  unfold printSearch
  cases hquery : Clause.parse query with
  | error fault =>
    refine ⟨⟨s!"Invalid query: {query}", .invalidClause fault⟩, [], ?_⟩
    rw [noted_nil]
    rfl
  | ok clause =>
    cases hsearch : (repository.search ⟨collection⟩ clause).result with
    | ok cursor => exact absurd hsearch (h clause cursor hquery)
    | error error =>
      refine ⟨⟨s!"Search on '{collection}' failed", error⟩,
        logged level (repository.search ⟨collection⟩ clause).lines, ?_⟩
      rw [on_orFail_parsed]
      exact on_bind_error (on_report_error hsearch console) _

/-- All loads succeed, the query is read and a cursor is opened on what the loads leave. -/
structure Opens (surroundings : Surroundings) (level : Level) (collection query : String)
    (loads : List LoadSpec) (repository last : Repository) (notes : List String) (clause : Clause)
    (cursor : Cursor) : Prop where
  loads_all : LoadsAll surroundings level repository loads last notes
  query_read : Clause.parse query = .ok clause
  cursor_opened : (last.search ⟨collection⟩ clause).result = .ok cursor

variable {joins : List Join}

theorem runSearch_loaded
    (h : LoadsAll surroundings level (declareAll joins repository) loads last notes)
    (collection query : String) (console : Console) :
    (runSearch surroundings level collection query joins loads repository).on console =
      (printSearch level collection query last).on (noted console notes) := by
  have hloads := h.loadAll_on [] console
  rw [List.append_nil] at hloads
  exact on_bind_ok hloads _

theorem runSearch_opens
    (h : Opens surroundings level collection query loads (declareAll joins repository) last notes
      clause cursor) (console : Console) :
    ∃ documents read, Yields last.store cursor documents ∧
      (cursor.drain last.store).2.1 = documents.map .ok ∧
      (runSearch surroundings level collection query joins loads repository).on console =
        (.ok (), ⟨console.results ++ documents.map Json.render,
          console.notes ++ notes ++ read ++ [totalNote documents.length collection]⟩) := by
  obtain ⟨documents, read, hyields, hdrain, hprinted⟩ :=
    printSearch_on h.query_read h.cursor_opened (noted console notes)
  exact ⟨documents, read, hyields, hdrain,
    (runSearch_loaded h.loads_all collection query console).trans hprinted⟩

theorem runSearch_failed {before later : List LoadSpec} {load : LoadSpec} {middle : Repository}
    {error : Error}
    (h : LoadsAll surroundings level (declareAll joins repository) before middle notes)
    (hload : (loadUntyped surroundings load middle).result = .error error)
    (collection query : String) (console : Console) :
    (runSearch surroundings level collection query joins (before ++ load :: later) repository).on
        console =
      (.error ⟨loadingDoing load, error⟩,
        noted console (notes ++ logged level (loadUntyped surroundings load middle).lines)) := by
  have hloads := h.loadAll_on (load :: later) console
  rw [loadAll_on_failed hload, noted_noted] at hloads
  exact on_bind_error hloads _

/-- A run that opens no cursor fails, with nothing printed but notes. -/
theorem runSearch_or (surroundings : Surroundings) (level : Level) (collection query : String)
    (joins : List Join) (loads : List LoadSpec) (repository : Repository) (console : Console) :
    (∃ last notes clause cursor, Opens surroundings level collection query loads
      (declareAll joins repository) last notes clause cursor) ∨
    ∃ failure notes,
      (runSearch surroundings level collection query joins loads repository).on console =
        (.error failure, noted console notes) := by
  rcases loadsAll_or surroundings level loads (declareAll joins repository) with
    ⟨last, notes, hall⟩ | ⟨before, load, later, middle, notes, error, rfl, hall, herror⟩
  · by_cases hopens : ∃ clause cursor, Clause.parse query = .ok clause ∧
        (last.search ⟨collection⟩ clause).result = .ok cursor
    · obtain ⟨clause, cursor, hquery, hsearch⟩ := hopens
      exact .inl ⟨last, notes, clause, cursor, hall, hquery, hsearch⟩
    · obtain ⟨failure, read, hrefused⟩ := printSearch_refused
        (fun clause cursor hquery hsearch => hopens ⟨clause, cursor, hquery, hsearch⟩)
        (noted console notes)
      rw [noted_noted] at hrefused
      exact .inr ⟨failure, _, (runSearch_loaded hall collection query console).trans hrefused⟩
  · exact .inr ⟨_, _, runSearch_failed hall herror collection query console⟩

/-- A search from the command line prints all of its results or none. If it fails, it has printed no
result. It succeeds only if the loads succeed, the query is read and a cursor is opened. Then it
does succeed: every call of the cursor answers with a result or the end, each result is a line of
its own, in order, and the number of lines is noted at the end. The first load that fails ends the
search: the loads before it are noted, and whatever is to be loaded later or to be searched for
makes no difference. -/
theorem prints_all_or_none (surroundings : Surroundings) (level : Level)
    (collection query : String) (joins : List Join) (loads : List LoadSpec)
    (repository : Repository) (console : Console) :
    let ran := (runSearch surroundings level collection query joins loads repository).on console
    (∀ failure, ran.1 = .error failure → ran.2.results = console.results) ∧
    (ran.1 = .ok () → ∃ last notes clause cursor,
      Opens surroundings level collection query loads (declareAll joins repository) last notes
        clause cursor) ∧
    (∀ last notes clause cursor,
      Opens surroundings level collection query loads (declareAll joins repository) last notes
        clause cursor →
      ∃ documents read, Yields last.store cursor documents ∧
        (cursor.drain last.store).2.1 = documents.map .ok ∧
        (∀ document ∈ documents, '\n' ∉ document.render.toList) ∧
        ran = (.ok (), ⟨console.results ++ documents.map Json.render,
          console.notes ++ notes ++ read ++ [totalNote documents.length collection]⟩)) ∧
    (∀ before load later middle notes error, loads = before ++ load :: later →
      LoadsAll surroundings level (declareAll joins repository) before middle notes →
      (loadUntyped surroundings load middle).result = .error error →
        ran = (.error ⟨loadingDoing load, error⟩,
          noted console (notes ++ logged level (loadUntyped surroundings load middle).lines))) := by
  intro ran
  have hor := runSearch_or surroundings level collection query joins loads repository console
  refine ⟨?_, ?_, ?_, ?_⟩
  · intro failure hfailure
    rcases hor with ⟨last, notes, clause, cursor, hopens⟩ | ⟨failure', notes, hran⟩
    · obtain ⟨documents, read, -, -, hran⟩ := runSearch_opens hopens console
      cases (congrArg Prod.fst hran).symm.trans hfailure
    · exact congrArg (·.2.results) hran
  · intro hok
    rcases hor with hopens | ⟨failure, notes, hran⟩
    · exact hopens
    · cases (congrArg Prod.fst hran).symm.trans hok
  · intro last notes clause cursor hopens
    obtain ⟨documents, read, hyields, hdrain, hran⟩ := runSearch_opens hopens console
    exact ⟨documents, read, hyields, hdrain, fun document _ => newline_notMem_render document, hran⟩
  · rintro before load later middle notes error rfl hall herror
    exact runSearch_failed hall herror collection query console

/-! ## A file that is missing -/

/-- Three users are in a file, and no other file is there. -/
def oneFile : Surroundings where
  openFile path := if path = "users.json" then .source Load.Whole.fromFive else .missing
  label := "first"
  memory := .standard

def usersLoad : LoadSpec := ⟨users, "users.json"⟩

def missingLoad : LoadSpec := ⟨organizations, "organizations.json"⟩

def startedRepository : Repository := (Search.RoundTrip.smallRepository.start "db" "first").state

def usersNote : String := loadedNote ⟨users, 3, 2⟩

def usersCursor : Cursor := ⟨some 1, users, ⟨[], []⟩, 0, 2, Nat.two_pos, []⟩

/-- If the users are searched for, all three are printed. If a missing file is to be loaded too, the
search ends there: the users are noted once, not printed, and not loaded again. -/
theorem three_users_or_none :
    let middle := (loadUntyped oneFile usersLoad startedRepository).state
    Opens oneFile .error "users" "" [usersLoad] startedRepository middle [usersNote] .empty
      usersCursor ∧
    (∃ (documents : List Json) (read : List String), documents.length = 3 ∧
      (runSearch oneFile .error "users" "" [] [usersLoad] startedRepository).on ⟨[], []⟩ =
        (.ok (), ⟨documents.map Json.render, usersNote :: (read ++ [totalNote 3 "users"])⟩)) ∧
    (loadUntyped oneFile missingLoad middle).result =
      .error (.sourceNotFound "organizations.json") ∧
    (runSearch oneFile .error "users" "" [] [usersLoad, missingLoad, usersLoad]
        startedRepository).on ⟨[], []⟩ =
      (.error ⟨loadingDoing missingLoad, .sourceNotFound "organizations.json"⟩,
        ⟨[], usersNote :: logged .error (loadUntyped oneFile missingLoad middle).lines⟩) := by
  intro middle
  have hload : (loadUntyped oneFile usersLoad startedRepository).result = .ok ⟨users, 3, 2⟩ := by
    rfl
  have hopens : Opens oneFile .error "users" "" [usersLoad] startedRepository middle [usersNote]
      .empty usersCursor := ⟨.cons hload .nil, by rfl, by rfl⟩
  have hmissing : (loadUntyped oneFile missingLoad middle).result =
      .error (.sourceNotFound "organizations.json") := by rfl
  have hcount : (usersCursor.drain middle.store).2.1.length = 3 := by rfl
  obtain ⟨-, -, hprinted, -⟩ :=
    prints_all_or_none oneFile .error "users" "" [] [usersLoad] startedRepository ⟨[], []⟩
  obtain ⟨documents, read, -, hdrain, -, hran⟩ := hprinted _ _ _ _ hopens
  obtain ⟨-, -, -, hfirst⟩ := prints_all_or_none oneFile .error "users" "" []
    [usersLoad, missingLoad, usersLoad] startedRepository ⟨[], []⟩
  have hlength : documents.length = 3 := by rw [← hcount, hdrain, List.length_map]
  rw [hlength] at hran
  exact ⟨hopens, ⟨documents, read, hlength, hran⟩, hmissing,
    hfirst [usersLoad] missingLoad [usersLoad] middle [usersNote] _ rfl hopens.loads_all hmissing⟩

end DocStore.Proofs.CommandLine.Printing
