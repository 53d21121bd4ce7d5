import DocStore.Proofs.CommandLine.Printing
import DocStore.Proofs.Load.Sizes
import DocStore.Proofs.Values.ByteOrder

/-!
# The names of the fields in a collection

The names are collected from a cursor on all documents of a collection, after the loads. They are
those of the loaded records and the name of the identifier, which every stored record has. So
neither the size of the batches nor that of the pages shows in them.
-/
namespace DocStore.Proofs.CommandLine.FieldNames

open DocStore.CommandLine DocStore.CommandLine.Run
open DocStore.Text (utf8)
open Load.Contents (Holds)
open Load.Sizes (Alike)
open Load.Whole (holds_unique)
open Runs Search.Results Search.RoundTrip Store.Draining Store.Life
open Values.ByteOrder (utf8_lt_utf8_iff)

variable {surroundings : Surroundings} {level : Level} {name : CollectionName}
variable {repository other last : Repository} {loads : List LoadSpec} {load : LoadSpec}
variable {notes : List String} {records : List Json}

/-! ## The records of loads -/

/-- The records of the files that are loaded into the collection, all of them and in order. -/
inductive LoadedInto (surroundings : Surroundings) (name : CollectionName) :
    List LoadSpec → List Json → Prop
  | nil : LoadedInto surroundings name [] []
  | into {load : LoadSpec} {more : List LoadSpec} {source : Source}
      {documents records : List Json} :
      load.collection = name → surroundings.openFile load.path = .source source →
      Holds untyped source documents .closed → LoadedInto surroundings name more records →
      LoadedInto surroundings name (load :: more) (documents ++ records)
  | elsewhere {load : LoadSpec} {more : List LoadSpec} {records : List Json} :
      load.collection ≠ name → LoadedInto surroundings name more records →
      LoadedInto surroundings name (load :: more) records

theorem LoadedInto.unique {records' : List Json} (h : LoadedInto surroundings name loads records)
    (h' : LoadedInto surroundings name loads records') : records = records' := by
  induction h generalizing records' with
  | nil =>
    cases h'
    rfl
  | into hname hopened hholds _ ih =>
    cases h' with
    | into _ hopened' hholds' hmore' =>
      obtain rfl := Opened.source.inj (hopened.symm.trans hopened')
      rw [(holds_unique hholds hholds').1, ih hmore']
    | elsewhere hother => exact absurd hname hother
  | elsewhere hother _ ih =>
    cases h' with
    | into hname => exact absurd hname hother
    | elsewhere _ hmore' => exact ih hmore'

/-- A load that is given on the command line. -/
def intakeOf (surroundings : Surroundings) (load : LoadSpec) : Intake :=
  ⟨surroundings.memory, untyped, load.collection, load.path, surroundings.openFile load.path⟩

theorem loadUntyped_eq (surroundings : Surroundings) (load : LoadSpec) (repository : Repository) :
    loadUntyped surroundings load repository = (intakeOf surroundings load).on repository := rfl

/-- Loads that all succeed put all of their records into their collections. -/
theorem loadedInto_of_loadsAll (h : LoadsAll surroundings level repository loads last notes)
    {session : Session} (hsession : repository.store.session = some session)
    (name : CollectionName) :
    ∃ records session', LoadedInto surroundings name loads records ∧
      last.store.session = some session' ∧ Gains name records session session' ∧
      last.joins = repository.joins := by
  induction h generalizing session with
  | nil => exact ⟨[], session, .nil, hsession, .of_eq rfl, rfl⟩
  | @cons repository last load more summary notes hload _ ih =>
    rw [loadUntyped_eq] at hload ih
    obtain ⟨middle, hmiddle, hgains⟩ := on_gains hsession (intakeOf surroundings load) name
    obtain ⟨records, session', hinto, hlast, hgains', hjoins⟩ := ih hmiddle
    have hkept : ((intakeOf surroundings load).on repository).state.joins = repository.joins :=
      joins_loaded [intakeOf surroundings load] repository
    obtain ⟨source, hopened, hholds⟩ :=
      (on_effect hsession (intakeOf surroundings load)).whole summary hload
    by_cases hname : (intakeOf surroundings load).collection = name
    · rw [if_pos hname] at hgains
      exact ⟨_, session', .into hname hopened hholds hinto, hlast, hgains.trans hgains',
        hjoins.trans hkept⟩
    · rw [if_neg hname] at hgains
      exact ⟨records, session', .elsewhere hname hinto, hlast, hgains.trans hgains',
        hjoins.trans hkept⟩

/-- Loads succeed as well on a repository with other sizes that holds the same, if there is room for
its batches. -/
theorem loadsAll_of_alike (h : LoadsAll surroundings level repository loads last notes)
    (halike : Alike repository.store other.store)
    (hfits : other.loader.batchSize ≤ surroundings.memory.capacity) (level' : Level) :
    ∃ last' notes', LoadsAll surroundings level' other loads last' notes' := by
  induction h generalizing other with
  | nil => exact ⟨other, [], .nil⟩
  | @cons repository last load more summary notes hload _ ih =>
    have ⟨session, session', hsession, hsession', _⟩ := halike
    obtain ⟨hresult, hstate⟩ := on_eq hsession (intakeOf surroundings load)
    obtain ⟨hresult', hstate'⟩ := on_eq hsession' (intakeOf surroundings load)
    rw [loadUntyped_eq] at hload ih
    obtain ⟨source, hopened, -⟩ :=
      (on_effect hsession (intakeOf surroundings load)).whole summary hload
    rw [hload, hopened] at hresult
    obtain ⟨⟨summary', hok⟩, hafter⟩ := halike.load hfits hresult.symm
    rw [hopened] at hstate hresult' hstate'
    obtain ⟨last', notes', hmore⟩ : ∃ last' notes', LoadsAll surroundings level'
        ((intakeOf surroundings load).on other).state more last' notes' := by
      rw [hstate] at ih
      rw [hstate']
      exact ih hafter hfits
    exact ⟨last', _, .cons (hresult'.trans hok) hmore⟩

/-! ## The names of a document and of many -/

/-- A stored record has the names of the record and that of the identifier. -/
theorem mem_fieldNames_stored {record stored : Json} (h : StoredAs record stored) {key : String} :
    key ∈ fieldNames stored ↔ key ∈ fieldNames record ∨ key = DocumentId.field := by
  obtain ⟨id, h⟩ := h
  cases h with
  | @carried fields id hid =>
    have hmem : DocumentId.field ∈ fieldNames (.obj fields) := by
      refine Fields.mem_keys_iff.2 ?_
      rw [show Fields.get? DocumentId.field fields = some id.toJson from hid]
      exact Option.some_ne_none _
    refine ⟨.inl, ?_⟩
    rintro (hkey | rfl)
    · exact hkey
    · exact hmem
  | filled _ => exact Fields.mem_keys_insert_iff.trans or_comm

theorem addNames_sorted {names : List (String × Unit)} (h : Fields.Sorted names) (document : Json) :
    Fields.Sorted (addNames names document) := by
  unfold addNames
  induction fieldNames document generalizing names with
  | nil => exact h
  | cons key rest ih => exact ih (Fields.insert_sorted key () h)

theorem mem_addNames_iff {names : List (String × Unit)} {document : Json} {key : String} :
    key ∈ (addNames names document).map (·.1) ↔
      key ∈ names.map (·.1) ∨ key ∈ fieldNames document := by
  unfold addNames
  induction fieldNames document generalizing names with
  | nil => simp
  | cons first rest ih =>
    rw [List.foldl_cons, ih, Fields.mem_keys_insert_iff, List.mem_cons]
    tauto

variable {documents : List Json}

/-- All names of documents, each once and in order. -/
def namesOf (documents : List Json) : List String :=
  (documents.foldl addNames []).map (·.1)

theorem foldl_addNames_sorted {names : List (String × Unit)} (h : Fields.Sorted names) :
    Fields.Sorted (documents.foldl addNames names) := by
  induction documents generalizing names with
  | nil => exact h
  | cons document rest ih => exact ih (addNames_sorted h document)

theorem mem_foldl_addNames_iff {names : List (String × Unit)} {key : String} :
    key ∈ (documents.foldl addNames names).map (·.1) ↔
      key ∈ names.map (·.1) ∨ ∃ document ∈ documents, key ∈ fieldNames document := by
  induction documents generalizing names with
  | nil => simp
  | cons document rest ih =>
    rw [List.foldl_cons, ih, mem_addNames_iff, List.exists_mem_cons_iff, or_assoc]

/-- Names in order are in the order of their bytes. -/
theorem namesOf_pairwise (documents : List Json) :
    (namesOf documents).Pairwise fun first second => utf8 first < utf8 second :=
  List.pairwise_map.2 ((foldl_addNames_sorted Fields.sorted_nil).imp utf8_lt_utf8_iff.2)

theorem mem_namesOf_iff {key : String} :
    key ∈ namesOf documents ↔ ∃ document ∈ documents, key ∈ fieldNames document := by
  rw [namesOf, mem_foldl_addNames_iff, List.map_nil]
  simp

/-- The names of stored records are those of the records, and that of the identifier if there is any
record. -/
theorem mem_namesOf_stored {stored : List Json} (h : List.Forall₂ StoredAs records stored)
    {key : String} :
    key ∈ namesOf stored ↔
      (∃ record ∈ records, key ∈ fieldNames record) ∨ key = DocumentId.field ∧ records ≠ [] := by
  rw [mem_namesOf_iff]
  induction h with
  | nil => simp
  | cons hfirst _ ih =>
    rw [List.exists_mem_cons_iff, List.exists_mem_cons_iff, ih, mem_fieldNames_stored hfirst]
    constructor
    · rintro ((hrecord | hid) | hrest | ⟨hid, -⟩)
      · exact .inl (.inl hrecord)
      · exact .inr ⟨hid, List.cons_ne_nil _ _⟩
      · exact .inl (.inr hrest)
      · exact .inr ⟨hid, List.cons_ne_nil _ _⟩
    · rintro ((hrecord | hrest) | ⟨hid, -⟩)
      · exact .inl (.inl hrecord)
      · exact .inr (.inl hrest)
      · exact .inl (.inr hid)

/-- What is collected depends on the records only, not on the identifiers that they are stored
under. -/
theorem namesOf_stored_congr {stored stored' : List Json}
    (h : List.Forall₂ StoredAs records stored) (h' : List.Forall₂ StoredAs records stored') :
    namesOf stored = namesOf stored' := by
  refine List.Perm.eq_of_pairwise (fun _ _ _ _ hlt hlt' => absurd hlt (List.lt_asymm hlt'))
    (namesOf_pairwise stored) (namesOf_pairwise stored') ?_
  have hnodup : ∀ documents, (namesOf documents).Nodup :=
    fun documents => (foldl_addNames_sorted Fields.sorted_nil).nodup
  refine (List.perm_ext_iff_of_nodup (hnodup stored) (hnodup stored')).2 fun key => ?_
  rw [mem_namesOf_stored h, mem_namesOf_stored h']

/-! ## The command -/

theorem does_addNames :
    Does (fun names document => return addNames names document) addNames fun _ => [] := by
  intro names document console
  rw [List.append_nil]
  rfl

/-- After loads that all succeed, the names are those of the stored records. -/
theorem collectFields_on (hjoins : repository.joins = []) {session : Session}
    (hsession : repository.store.session = some session) {collection : String}
    (hempty : session.documents ⟨collection⟩ = []) (hvalid : CollectionName.Valid ⟨collection⟩)
    (hloads : LoadsAll surroundings level repository loads last notes) (console : Console) :
    ∃ records stored read, LoadedInto surroundings ⟨collection⟩ loads records ∧
      List.Forall₂ StoredAs records stored ∧
      (collectFields surroundings level collection loads repository).on console =
        (.ok (namesOf stored), noted console (notes ++ read)) := by
  obtain ⟨records, session', hinto, hlast, ⟨stored, hdocuments, hstored⟩, hkept⟩ :=
    loadedInto_of_loadsAll hloads hsession ⟨collection⟩
  obtain ⟨cursor, hsearch, hlive, hremaining⟩ := search_empty hlast (hkept.trans hjoins) hvalid
  have hyields := yields_remaining hlive
  have hbound := Nat.lt_succ_of_lt (length_remaining_lt hlive)
  rw [hremaining, hdocuments, hempty, List.nil_append] at hyields hbound
  have hall := hloads.loadAll_on [] console
  rw [List.append_nil] at hall
  obtain ⟨read, hread⟩ := does_addNames.forResults_on hyields hbound []
    (noted (noted console notes) (logged level (last.search ⟨collection⟩ .empty).lines))
  refine ⟨records, stored, logged level (last.search ⟨collection⟩ .empty).lines ++ read, hinto,
    hstored, ?_⟩
  unfold collectFields
  rw [on_bind_ok hall, on_bind_ok (on_report_ok hsearch _), allResults, on_bind_ok hread]
  have hshown : (stored.flatMap fun _ => ([] : List String)) = [] := by simp
  rw [hshown, List.append_nil]
  simp only [noted, List.append_assoc]
  rfl

/-- No names are collected unless all loads succeed. -/
theorem loadsAll_of_collectFields {collection : String} {console : Console} {names : List String}
    (h : ((collectFields surroundings level collection loads repository).on console).1 =
      .ok names) : ∃ last notes, LoadsAll surroundings level repository loads last notes := by
  rcases loadsAll_or surroundings level loads repository with
    hall | ⟨before, load, later, middle, notes, error, rfl, hbefore, hload⟩
  · exact hall
  · have hfailed := hbefore.loadAll_on (load :: later) console
    rw [loadAll_on_failed hload] at hfailed
    unfold collectFields at h
    rw [on_bind_error hfailed] at h
    cases h

/-- A repository that was just started holds nothing, whatever its sizes. -/
theorem alike_started {storeName label storeName' label' : String}
    (hstart : (repository.start storeName label).result = .ok ())
    (hstart' : (other.start storeName' label').result = .ok ()) :
    Alike (repository.start storeName label).state.store
      (other.start storeName' label').state.store :=
  ⟨_, _, start_ok hstart, start_ok hstart', rfl⟩

/-- After loads that all succeed, the names that are collected from a collection rise strictly in
the order of their bytes, and they are exactly the names of the records that are loaded into it,
with the name of the identifier if there is any record. It makes no difference which repository
without joins is started for the loads, as long as there is room for its batches: their size and
that of its pages, its session, the level of its lines and what is on the console before do not
change the names. -/
theorem field_names_of_loads {collection : String} (hvalid : CollectionName.Valid ⟨collection⟩)
    {storeName label : String} (hstart : (repository.start storeName label).result = .ok ())
    (hloads : LoadsAll surroundings level (repository.start storeName label).state loads last
      notes) :
    ∃ records names, LoadedInto surroundings ⟨collection⟩ loads records ∧
      names.Pairwise (fun first second => utf8 first < utf8 second) ∧
      (∀ key, key ∈ names ↔
        (∃ record ∈ records, key ∈ fieldNames record) ∨ key = "_id" ∧ records ≠ []) ∧
      ∀ (other : Repository) (storeName' label' : String) (level' : Level) (console : Console),
        other.joins = [] → (other.start storeName' label').result = .ok () →
          other.loader.batchSize ≤ surroundings.memory.capacity →
          ∃ read, (collectFields surroundings level' collection loads
              (other.start storeName' label').state).on console =
            (.ok names, noted console read) := by
  have hstarted : (repository.start storeName label).state.store.session =
      some (opened storeName label (repository.store.opened + 1)) := start_ok hstart
  obtain ⟨records, _, hinto, -, ⟨stored, -, hstored⟩, -⟩ :=
    loadedInto_of_loadsAll hloads hstarted ⟨collection⟩
  refine ⟨records, namesOf stored, hinto, namesOf_pairwise stored,
    fun key => mem_namesOf_stored hstored, ?_⟩
  intro other storeName' label' level' console hjoins hstart' hfits
  have hstarted' : (other.start storeName' label').state.store.session =
      some (opened storeName' label' (other.store.opened + 1)) := start_ok hstart'
  obtain ⟨last', notes', hloads'⟩ :=
    loadsAll_of_alike hloads (alike_started hstart hstart') hfits level'
  have hkept : (other.start storeName' label').state.joins = [] := hjoins
  obtain ⟨records', stored', read, hinto', hstored', hran⟩ :=
    collectFields_on hkept hstarted' rfl hvalid hloads' console
  obtain rfl := hinto.unique hinto'
  rw [namesOf_stored_congr hstored hstored']
  exact ⟨_, hran⟩

/-! ## Organizations with different fields -/

def orgsText : String :=
  "[\x7b\"name\":\"Enthaze\",\"url\":\"x\"\x7d,\x7b\"domain_names\":[],\"name\":\"Nutralab\"\x7d]"

/-- Two organizations are in one file, and three users are in the other one. -/
def twoFiles : Surroundings where
  openFile path :=
    .source (if path = "orgs.json" then ⟨utf8 orgsText, none⟩ else Load.Whole.fromFive)
  label := "first"
  memory := .standard

def orgsAndUsers : List LoadSpec := [⟨organizations, "orgs.json"⟩, Printing.usersLoad]

/-- A repository that loads records one by one and reads all of them at once. -/
def singles : Repository := ⟨⟨none, 0, 100, by decide⟩, [], ⟨1, Nat.one_pos⟩⟩

theorem organization_fields :
    organizations.Valid ∧ (smallRepository.start "db" "first").result = .ok () ∧
    (∃ last notes, LoadsAll twoFiles .error (smallRepository.start "db" "first").state orgsAndUsers
      last notes) ∧
    ∃ read, (collectFields twoFiles .info "organizations" orgsAndUsers
        (singles.start "other" "second").state).on ⟨[], []⟩ =
      (.ok ["_id", "domain_names", "name", "url"], ⟨[], read⟩) := by
  have hvalid : organizations.Valid := by decide
  have hstart : (smallRepository.start "db" "first").result = .ok () := by rfl
  have hcollected : ((collectFields twoFiles .error "organizations" orgsAndUsers
      (smallRepository.start "db" "first").state).on ⟨[], []⟩).1 =
        .ok ["_id", "domain_names", "name", "url"] := by
    refine eq_ok_of_toOption ?_
    decide +kernel
  obtain ⟨last, notes, hloads⟩ := loadsAll_of_collectFields hcollected
  obtain ⟨records, names, -, -, -, hnames⟩ := field_names_of_loads hvalid hstart hloads
  have hsmallFits : smallRepository.loader.batchSize ≤ twoFiles.memory.capacity := by decide
  have hsinglesFit : singles.loader.batchSize ≤ twoFiles.memory.capacity := by decide
  obtain ⟨read, hsmall⟩ := hnames smallRepository "db" "first" .error ⟨[], []⟩ rfl hstart hsmallFits
  obtain ⟨read', hsingles⟩ := hnames singles "other" "second" .info ⟨[], []⟩ rfl rfl hsinglesFit
  rw [hsmall] at hcollected
  obtain rfl : names = ["_id", "domain_names", "name", "url"] := Except.ok.inj hcollected
  exact ⟨hvalid, hstart, ⟨last, notes, hloads⟩, read', hsingles⟩

end DocStore.Proofs.CommandLine.FieldNames
