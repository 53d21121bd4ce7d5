import DocStore.Proofs.Load.Whole
import DocStore.Proofs.Search.Results

/-!
# From loads to searches

Loads that follow each other put their records into collections, each load into its own. What a load
commits is read off its calls; it may stop half-way. A search without constraints finds the records
of all loads into the collection, in the order in which they were committed.
-/
namespace DocStore.Proofs.Search.RoundTrip

open Load.Batches Load.Calls Load.Contents Load.Failure Load.Replay Load.Slices
open Compile Results
open Store.Batch Store.Draining Store.Life
open Store.Staging (Entered)

/-! ## Calls and the records that they commit -/

/-- The records of the calls that the store has accepted. -/
def committed (calls : List Call) : List Json :=
  calls.flatMap fun call =>
    match call.result with
    | .ok _ => call.batch
    | .error _ => []

/-- A record is stored as it is, or with an identifier put into it if it has none. -/
def StoredAs (record stored : Json) : Prop := ∃ id, Entered record id stored

/-- Behind the documents of the collection there are now the records, as they are stored. -/
def Gains (name : CollectionName) (records : List Json) (before after : Session) : Prop :=
  ∃ stored, after.documents name = before.documents name ++ stored ∧
    List.Forall₂ StoredAs records stored

variable {name collection : CollectionName} {records more : List Json}
variable {session session' session'' : Session} {store last : Store}

theorem Gains.of_eq (h : session'.collection? name = session.collection? name) :
    Gains name [] session session' := by
  refine ⟨[], ?_, .nil⟩
  unfold Session.documents
  rw [h, List.append_nil]

theorem Gains.trans (h : Gains name records session session')
    (h' : Gains name more session' session'') : Gains name (records ++ more) session session'' := by
  obtain ⟨stored, hdocuments, hstored⟩ := h
  obtain ⟨stored', hdocuments', hstored'⟩ := h'
  refine ⟨stored ++ stored', ?_, List.rel_append hstored hstored'⟩
  rw [hdocuments', hdocuments, List.append_assoc]

theorem committed_append (calls others : List Call) :
    committed (calls ++ others) = committed calls ++ committed others := List.flatMap_append

theorem committed_of_committed {batches : List (List Json)} {calls : List Call}
    (h : Committed collection batches calls) : committed calls = batches.flatten := by
  obtain ⟨rfl, haccepted⟩ := h
  induction calls with
  | nil => rfl
  | cons call rest ih =>
    obtain ⟨-, inserted, hok⟩ := haccepted call List.mem_cons_self
    have hrest := ih fun other hother => haccepted other (List.mem_cons_of_mem call hother)
    have hfirst : committed [call] = call.batch := by simp [committed, hok]
    rw [← List.singleton_append, committed_append, hfirst, hrest]
    rfl

/-- One call extends its collection by the batch, or does nothing. -/
theorem insertMany_gains (h : store.session = some session) (name : CollectionName)
    (batch : List Json) :
    ∃ session', (store.insertMany name batch).state.session = some session' ∧
      Gains name (committed [⟨name, batch, (store.insertMany name batch).result⟩]) session
        session' ∧
      ∀ other, other ≠ name → session'.collection? other = session.collection? other := by
  rcases insertMany_cases store name batch with
    ⟨error, hresult, hstate⟩ | ⟨before, staged, -, hbefore, hstage, hresult, hstate⟩
  · rw [hresult, hstate]
    exact ⟨session, h, .of_eq rfl, fun _ _ => rfl⟩
  · obtain rfl := Option.some.inj (h.symm.trans hbefore)
    obtain ⟨entries, hentered, hdocuments, -⟩ := Store.Staging.stage_entered hstage
    rw [hresult, hstate]
    refine ⟨_, rfl, ⟨staged.documents, documents_extended_self session name staged, ?_⟩,
      fun other hother => collection?_extended_ne session staged hother⟩
    rw [hdocuments, List.forall₂_map_right_iff]
    simp only [committed, List.flatMap_cons, List.flatMap_nil, List.append_nil]
    exact hentered.imp fun _ entry h => ⟨entry.1, h⟩

/-- Calls into one collection extend it by what they commit, and touch no other. -/
theorem follows_gains {calls : List Call} (hfollows : Follows Store.insertMany store calls last)
    (hcalls : ∀ call ∈ calls, call.collection = collection) (h : store.session = some session) :
    ∃ session', last.session = some session' ∧
      Gains collection (committed calls) session session' ∧
      ∀ other, other ≠ collection → session'.collection? other = session.collection? other := by
  induction hfollows generalizing session with
  | nil => exact ⟨session, h, .of_eq rfl, fun _ _ => rfl⟩
  | @cons store last call rest hresult _ ih =>
    obtain ⟨name, batch, result⟩ := call
    obtain rfl : name = collection := hcalls _ List.mem_cons_self
    change (store.insertMany name batch).result = result at hresult
    subst hresult
    obtain ⟨middle, hmiddle, hgains, hothers⟩ := insertMany_gains h name batch
    obtain ⟨after, hafter, hgains', hothers'⟩ :=
      ih (fun call hcall => hcalls call (List.mem_cons_of_mem _ hcall)) hmiddle
    rw [← List.singleton_append, committed_append]
    refine ⟨after, hafter, hgains.trans hgains', fun other hother => ?_⟩
    rw [hothers' other hother, hothers other hother]

/-! ## One load -/

/-- All that is given for a load. -/
structure Intake where
  memory : Memory
  record : RecordReader
  collection : CollectionName
  path : String
  opened : Opened

namespace Intake

def on (intake : Intake) (repository : Repository) : Outcome Repository Summary :=
  repository.load intake.memory intake.record intake.collection intake.path intake.opened

/-- There is room for a batch. -/
def Fits (intake : Intake) (repository : Repository) : Prop :=
  repository.loader.batchSize ≤ intake.memory.capacity

/-- The calls that the load makes, with the answers of the store. -/
def calls (intake : Intake) (repository : Repository) : List Call :=
  (repository.loader.loadFile intake.memory (traced Store.insertMany) intake.record
    intake.collection intake.path intake.opened (repository.store, [])).state.2

def committed (intake : Intake) (repository : Repository) : List Json :=
  RoundTrip.committed (intake.calls repository)

end Intake

/-- What a repository holds of a collection, if anything. -/
def collectionIn (repository : Repository) (name : CollectionName) : Option Collection :=
  repository.store.session.bind (·.collection? name)

/-- What becomes of a load. It commits all records of its source if it succeeds; if it fails, it
commits the batches before the one that is refused, or as many as the end of the reading allows. If
there is no room for a batch it panics and commits none. It touches no collection but its own. -/
structure Effect (intake : Intake) (repository : Repository) : Prop where
  whole : ∀ summary, (intake.on repository).result = .ok summary →
    ∃ source, intake.opened = .source source ∧
      Holds intake.record source (intake.committed repository) .closed
  batches : ∀ source, intake.opened = .source source →
    ∃ documents ending count, Holds intake.record source documents ending ∧
      (intake.Fits repository → Ends repository.loader intake.collection intake.path documents
        ending (intake.on repository).result (intake.calls repository)) ∧
      count ≤ documents.length ⌈/⌉ repository.loader.batchSize ∧
      intake.committed repository =
        (slices repository.loader.batchSize documents count).flatten
  overflow : ∀ source, intake.opened = .source source → ¬ intake.Fits repository →
    (intake.on repository).result = .error .capacityOverflow ∧ intake.committed repository = []
  unopened : (∀ source, intake.opened ≠ .source source) → intake.committed repository = []
  others : ∀ other, other ≠ intake.collection →
    collectionIn (intake.on repository).state other = collectionIn repository other

variable {repository : Repository} {intake : Intake}

theorem on_eq (h : repository.store.session = some session) (intake : Intake) :
    let loaded := repository.loader.loadFile intake.memory Store.insertMany intake.record
      intake.collection intake.path intake.opened repository.store
    (intake.on repository).result = loaded.result ∧
      (intake.on repository).state = { repository with store := loaded.state } := by
  have hstarted : repository.store.isStarted = true := by simp [Store.isStarted, h]
  simp [Intake.on, Repository.load, hstarted]

theorem on_follows (h : repository.store.session = some session) (intake : Intake) :
    Follows Store.insertMany repository.store (intake.calls repository)
      (intake.on repository).state.store := by
  obtain ⟨memory, record, collection, path, opened⟩ := intake
  rw [(on_eq h _).2]
  cases opened with
  | missing | refused => exact .nil
  | source source =>
    have hfollows := load_follows repository.loader memory Store.insertMany record collection path
      source repository.store
    simp only [Loader.loadFile]
    rw [load_traced memory Store.insertMany collection repository.loader record path source _ []]
    exact hfollows

/-- What a load has committed, told from how it ended. -/
theorem ends_committed {loader : Loader} {documents : List Json} {ending : Ending} {path : String}
    {result : Except Error Summary} {calls : List Call}
    (h : Ends loader collection path documents ending result calls) :
    (∀ call ∈ calls, call.collection = collection) ∧
    (∀ summary, result = .ok summary → ending = .closed ∧ committed calls = documents) ∧
    ∃ count, count ≤ documents.length ⌈/⌉ loader.batchSize ∧
      committed calls = (slices loader.batchSize documents count).flatten := by
  have hplanned : planned loader.batchSize documents.length ending ≤
      documents.length ⌈/⌉ loader.batchSize := planned_le_ceilDiv _ _ _
  rcases h with ⟨j, error, hj, ⟨before, hbefore, rfl⟩, rfl⟩ | ⟨hcommitted, rfl⟩
  · refine ⟨?_, fun summary hok => (nomatch hok), j, Nat.le_trans (Nat.le_of_lt hj) hplanned, ?_⟩
    · intro call hcall
      rcases List.mem_append.1 hcall with hold | hnew
      · exact (hbefore.accepted call hold).1
      · rw [List.mem_singleton.1 hnew]
    · rw [committed_append, committed_of_committed hbefore]
      exact List.append_nil _
  · refine ⟨fun call hcall => (hcommitted.accepted call hcall).1, ?_, _, hplanned,
      committed_of_committed hcommitted⟩
    intro summary hok
    obtain rfl := closed_of_answer_ok hok
    refine ⟨rfl, ?_⟩
    rw [committed_of_committed hcommitted, flatten_slices]
    exact List.take_of_length_le (le_ceilDiv_mul loader.batchSize_pos documents.length)

/-- A load of a file that was opened ends as the reading or the store makes it end. -/
theorem on_ends (h : repository.store.session = some session) (hfits : intake.Fits repository)
    {source : Source} (hopened : intake.opened = .source source) :
    ∃ documents ending, Holds intake.record source documents ending ∧
      Ends repository.loader intake.collection intake.path documents ending
        (intake.on repository).result (intake.calls repository) := by
  have hresult := (on_eq h intake).1
  obtain ⟨memory, record, collection, path, opened⟩ := intake
  obtain rfl : opened = .source source := hopened
  simp only [Loader.loadFile] at hresult
  rw [load_traced memory Store.insertMany collection repository.loader record path source _ []]
    at hresult
  rw [hresult]
  exact ⟨_, _, holds_iff.2 rfl,
    load_ends hfits Store.insertMany record collection path source repository.store⟩

theorem on_overflow (h : repository.store.session = some session)
    (hlarge : ¬ intake.Fits repository) {source : Source}
    (hopened : intake.opened = .source source) :
    (intake.on repository).result = .error .capacityOverflow ∧ intake.calls repository = [] := by
  have hresult := (on_eq h intake).1
  obtain ⟨memory, record, collection, path, opened⟩ := intake
  obtain rfl : opened = .source source := hopened
  have hlt : memory.capacity < repository.loader.batchSize := Nat.not_le.1 hlarge
  simp only [Loader.loadFile, Loader.load_of_lt hlt] at hresult
  refine ⟨hresult, ?_⟩
  simp only [Intake.calls, Loader.loadFile, Loader.load_of_lt hlt]

/-- A load of a file that cannot be opened fails and makes no call. -/
theorem on_unopened (h : repository.store.session = some session)
    (hopened : ∀ source, intake.opened ≠ .source source) :
    (∃ error, (intake.on repository).result = .error error) ∧ intake.calls repository = [] := by
  have hresult := (on_eq h intake).1
  obtain ⟨memory, record, collection, path, opened⟩ := intake
  cases opened with
  | missing | refused => exact ⟨⟨_, hresult⟩, rfl⟩
  | source source => exact absurd rfl (hopened source)

/-- A load that is under way ends in order; any other one has failed without a call. -/
theorem on_cases (h : repository.store.session = some session) (intake : Intake) :
    (∃ source documents ending, intake.opened = .source source ∧
      Holds intake.record source documents ending ∧
      Ends repository.loader intake.collection intake.path documents ending
        (intake.on repository).result (intake.calls repository)) ∨
    ((∃ error, (intake.on repository).result = .error error) ∧ intake.calls repository = []) := by
  by_cases hopened : ∃ source, intake.opened = .source source
  · obtain ⟨source, hsource⟩ := hopened
    by_cases hfits : intake.Fits repository
    · obtain ⟨documents, ending, hholds, hends⟩ := on_ends h hfits hsource
      exact .inl ⟨source, documents, ending, hsource, hholds, hends⟩
    · obtain ⟨hresult, hcalls⟩ := on_overflow h hfits hsource
      exact .inr ⟨⟨_, hresult⟩, hcalls⟩
  · exact .inr (on_unopened h (not_exists.1 hopened))

theorem collection_of_mem_calls (h : repository.store.session = some session) :
    ∀ call ∈ intake.calls repository, call.collection = intake.collection := by
  rcases on_cases h intake with ⟨source, documents, ending, -, -, hends⟩ | ⟨-, hcalls⟩
  · exact (ends_committed hends).1
  · rw [hcalls]
    exact List.forall_mem_nil _

theorem committed_of_calls_nil (h : intake.calls repository = []) :
    intake.committed repository = [] := by
  rw [Intake.committed, h]
  rfl

theorem on_effect (h : repository.store.session = some session) (intake : Intake) :
    Effect intake repository := by
  constructor
  · intro summary hok
    rcases on_cases h intake with
      ⟨source, documents, ending, hsource, hholds, hends⟩ | ⟨⟨error, herror⟩, -⟩
    · obtain ⟨rfl, hall⟩ := (ends_committed hends).2.1 summary hok
      rw [← hall] at hholds
      exact ⟨source, hsource, hholds⟩
    · cases herror.symm.trans hok
  · intro source hsource
    by_cases hfits : intake.Fits repository
    · obtain ⟨documents, ending, hholds, hends⟩ := on_ends h hfits hsource
      obtain ⟨-, -, count, hcount, hbatches⟩ := ends_committed hends
      exact ⟨documents, ending, count, hholds, fun _ => hends, hcount, hbatches⟩
    · have hnone := committed_of_calls_nil (on_overflow h hfits hsource).2
      exact ⟨_, _, 0, holds_iff.2 rfl, fun h => absurd h hfits, Nat.zero_le _, hnone⟩
  · intro source hsource hlarge
    obtain ⟨hresult, hcalls⟩ := on_overflow h hlarge hsource
    exact ⟨hresult, committed_of_calls_nil hcalls⟩
  · intro hopened
    exact committed_of_calls_nil (on_unopened h hopened).2
  · intro other hother
    obtain ⟨session', hsession', -, hkept⟩ :=
      follows_gains (on_follows h intake) (collection_of_mem_calls h) h
    unfold collectionIn
    rw [hsession', h]
    exact hkept other hother

/-! ## Loads that follow each other -/

/-- A repository after loads. -/
def loaded (intakes : List Intake) (repository : Repository) : Repository :=
  intakes.foldl (fun repository intake => (intake.on repository).state) repository

/-- What loads that follow each other commit to one collection. -/
def committedInto (name : CollectionName) : List Intake → Repository → List Json
  | [], _ => []
  | intake :: rest, repository =>
    (if intake.collection = name then intake.committed repository else []) ++
      committedInto name rest (intake.on repository).state

theorem on_gains (h : repository.store.session = some session) (intake : Intake)
    (name : CollectionName) :
    ∃ session', (intake.on repository).state.store.session = some session' ∧
      Gains name (if intake.collection = name then intake.committed repository else []) session
        session' := by
  obtain ⟨session', hsession', hgains, hothers⟩ :=
    follows_gains (on_follows h intake) (collection_of_mem_calls h) h
  refine ⟨session', hsession', ?_⟩
  by_cases hname : intake.collection = name
  · rw [if_pos hname, ← hname]
    exact hgains
  · rw [if_neg hname]
    exact .of_eq (hothers name (Ne.symm hname))

theorem loaded_gains (h : repository.store.session = some session) (intakes : List Intake)
    (name : CollectionName) :
    ∃ session', (loaded intakes repository).store.session = some session' ∧
      Gains name (committedInto name intakes repository) session session' := by
  induction intakes generalizing repository session with
  | nil => exact ⟨session, h, .of_eq rfl⟩
  | cons intake rest ih =>
    obtain ⟨middle, hmiddle, hgains⟩ := on_gains h intake name
    obtain ⟨last, hlast, hgains'⟩ := ih hmiddle
    exact ⟨last, hlast, hgains.trans hgains'⟩

/-- Loads declare no joins. -/
theorem joins_loaded (intakes : List Intake) (repository : Repository) :
    (loaded intakes repository).joins = repository.joins := by
  induction intakes generalizing repository with
  | nil => rfl
  | cons intake rest ih =>
    have hon : (intake.on repository).state.joins = repository.joins := by
      unfold Intake.on Repository.load
      split <;> rfl
    exact (ih _).trans hon

/-! ## The search -/

/-- Without constraints and joins, a search opens a cursor on the documents as they are. -/
theorem search_empty (h : repository.store.session = some session) (hjoins : repository.joins = [])
    {target : CollectionName} (hvalid : target.Valid) :
    ∃ cursor, (repository.search target .empty).result = .ok cursor ∧
      Live repository.store session cursor ∧
      remaining session cursor = session.documents target := by
  obtain ⟨store, joins, loader⟩ := repository
  obtain rfl : joins = [] := hjoins
  refine ⟨_, search_eq_ok_iff.2 ⟨session, h, hvalid, by rfl, by rfl, rfl⟩, cursorOf_live h, ?_⟩
  have hnodup : (Clause.empty.constraints.map (·.1)).Nodup := List.nodup_nil
  rw [remaining_cursorOf hnodup]
  have hall : (session.documents target).filter (satisfied .empty) = session.documents target :=
    List.filter_true _
  rw [hall]
  exact List.map_id _

/-- After loads into a repository without joins that was just started, a search without constraints
yields the records that the loads into its collection have committed, in the order of the loads.
Each comes out as it went in, except for an identifier put into a record that had none. A load that
succeeds has committed all records of its source, one that fails some batches of them, one that
panics nothing, and none has touched a collection but its own. -/
theorem search_yields_loaded {repository : Repository} (hjoins : repository.joins = [])
    {name label : String} (hstart : (repository.start name label).result = .ok ())
    (intakes : List Intake) {target : CollectionName} (hvalid : target.Valid) :
    let started := (repository.start name label).state
    let last := loaded intakes started
    (∃ cursor results, (last.search target .empty).result = .ok cursor ∧
      Yields last.store cursor results ∧ (cursor.drain last.store).2.1 = results.map .ok ∧
      List.Forall₂ StoredAs (committedInto target intakes started) results) ∧
    ∀ before intake after, intakes = before ++ intake :: after →
      Effect intake (loaded before started) := by
  intro started last
  have hstarted : started.store.session = some (opened name label (repository.store.opened + 1)) :=
    start_ok hstart
  constructor
  · obtain ⟨session, hsession, stored, hdocuments, hentered⟩ := loaded_gains hstarted intakes target
    have hlast : last.joins = [] := (joins_loaded intakes started).trans hjoins
    obtain ⟨cursor, hsearch, hlive, hremaining⟩ := search_empty hsession hlast hvalid
    -- A session that was just opened has no documents.
    rw [← List.nil_append stored] at hentered
    refine ⟨cursor, _, hsearch, yields_remaining hlive, drain_eq hlive, ?_⟩
    rw [hremaining, hdocuments]
    exact hentered
  · rintro before intake after -
    obtain ⟨session, hsession, -⟩ := loaded_gains hstarted before intake.collection
    exact on_effect hsession intake

/-! ## A load that stops half-way -/

/-- A repository with pages and batches of two. -/
def smallRepository : Repository := ⟨⟨none, 0, 2, Nat.two_pos⟩, [], Load.Partition.inPairs⟩

def monday : List Intake :=
  [⟨.standard, untyped, users, "users.json", .source Load.Whole.fromFive⟩,
    ⟨.standard, untyped, organizations, "organizations.json", .missing⟩,
    ⟨.standard, untyped, users, "more.json", .source cutShort⟩,
    ⟨.standard, untyped, organizations, "users.json", .source Load.Whole.fromFive⟩]

/-- The first load is complete. The third one commits a pair before it fails, and the record that
was read after the pair is not among the results. -/
theorem pair_stays :
    smallRepository.joins = [] ∧ (smallRepository.start "db" "first").result = .ok () ∧
    users.Valid ∧
    let last := loaded monday (smallRepository.start "db" "first").state
    ∃ cursor results, (last.search users .empty).result = .ok cursor ∧
      Yields last.store cursor results ∧
      List.Forall₂ StoredAs (Load.Whole.fiveAndOn ++ [.obj [], .obj []]) results := by
  have hstart : (smallRepository.start "db" "first").result = .ok () := by rfl
  have hvalid : users.Valid := by decide
  have hcommitted : committedInto users monday (smallRepository.start "db" "first").state =
      Load.Whole.fiveAndOn ++ [.obj [], .obj []] := by rfl
  obtain ⟨⟨cursor, results, hsearch, hyields, -, hentered⟩, -⟩ :=
    search_yields_loaded rfl hstart monday hvalid
  rw [hcommitted] at hentered
  exact ⟨rfl, hstart, hvalid, cursor, results, hsearch, hyields, hentered⟩

end DocStore.Proofs.Search.RoundTrip
