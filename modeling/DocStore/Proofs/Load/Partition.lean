import DocStore.Proofs.Load.Failure

/-!
# What a load commits

A load that meets no failure hands over all documents of the source, batch by batch and each of them
once. It never keeps more than one batch of them, and there must be room for this one.
-/
namespace DocStore.Proofs.Load.Partition

open Batches Calls Contents Failure Slices

variable {σ : Type}

variable {loader : Loader} {memory : Memory}

/-- Between two documents less than a batch is kept, whatever the gateway answers. -/
theorem buffer_lt (hfits : loader.batchSize ≤ memory.capacity) (gateway : Gateway σ)
    (collection : CollectionName) (documents : List Json) (state : σ) :
    (loader.pushAll memory gateway collection documents
      (Loader.atStart collection state)).2.buffer.length < loader.batchSize := by
  have hstart : Loader.atStart collection state =
      untraced (Loader.atStart collection (state, ([] : List Call))) := rfl
  rw [hstart, pushAll_untraced]
  rcases pushAll_progress gateway documents (atStart_progress hfits collection state) with
    ⟨loading, hpush, hprogress⟩ | ⟨_, error, loading, hpush, hbuffer, -, -⟩
  · rw [hpush]
    exact hprogress.buffer_lt
  · rw [hpush]
    change loading.buffer.length < loader.batchSize
    rw [hbuffer]
    exact loader.batchSize_pos

/-- The room that is made for a batch is enough: one more document goes into the buffer. -/
theorem length_buffered_le (hfits : loader.batchSize ≤ memory.capacity) (gateway : Gateway σ)
    (collection : CollectionName) (read : List Json) (document : Json) (state : σ) :
    (buffered document (loader.pushAll memory gateway collection read
      (loader.begun memory collection state).2).2).buffer.length ≤ loader.batchSize := by
  rw [Loader.begun_of_le hfits]
  have hlt := buffer_lt hfits gateway collection read state
  simp only [buffered, List.length_append, List.length_singleton]
  omega

/-- A load of a list of records, every batch of which is accepted, succeeds exactly if there is room
for a batch. Its batches are then a partition of the documents, and its summary counts both. After
any number of documents the buffer has room for one more. -/
theorem load_partitions {gateway : Gateway σ} {record : RecordReader}
    {collection : CollectionName} {name : String} {source : Source} {state : σ}
    {documents : List Json} (hholds : Holds record source documents .closed)
    (haccepted : ∀ call ∈ (loader.load memory (traced gateway) record collection name source
      (state, [])).state.2, call.Accepted) :
    let calls :=
      (loader.load memory (traced gateway) record collection name source (state, [])).state.2
    let loaded := loader.load memory gateway record collection name source state
    ((∃ summary, loaded.result = .ok summary) ↔ loader.batchSize ≤ memory.capacity) ∧
    (loader.batchSize ≤ memory.capacity →
      loaded.result = .ok ⟨collection, documents.length, documents.length ⌈/⌉ loader.batchSize⟩ ∧
      Slices.Partition loader.batchSize documents (calls.map (·.batch)) ∧
      (∀ call ∈ calls, call.collection = collection) ∧
      ∀ read document, read ++ [document] <+: documents →
        let loading := (loader.pushAll memory gateway collection read
          (loader.begun memory collection state).2).2
        (buffered document loading).buffer.length ≤ loader.batchSize) := by
  intro calls loaded
  have hpartition : loader.batchSize ≤ memory.capacity →
      loaded.result = .ok ⟨collection, documents.length, documents.length ⌈/⌉ loader.batchSize⟩ ∧
      Slices.Partition loader.batchSize documents (calls.map (·.batch)) ∧
      ∀ call ∈ calls, call.collection = collection := by
    intro hfits
    have hends := load_ends hfits gateway record collection name source state
    have hload := load_traced memory gateway collection loader record name source state []
    rw [holds_iff.1 hholds] at hends
    rcases hends with ⟨j, error, -, hrefused, -⟩ | ⟨hcommitted, hresult⟩
    · obtain ⟨call, hcall, hnot⟩ := hrefused.exists_not_accepted
      exact absurd (haccepted call hcall) hnot
    · refine ⟨?_, ?_, fun call hcall => (hcommitted.accepted call hcall).1⟩
      · exact (congrArg (·.result) hload).trans hresult
      · rw [hcommitted.batches_eq]
        exact slices_partition loader.batchSize_pos documents
  constructor
  · constructor
    · rintro ⟨summary, hok⟩
      exact Loader.fits_of_ok hok
    · intro hfits
      exact ⟨_, (hpartition hfits).1⟩
  · intro hfits
    obtain ⟨hresult, hslices, hcollection⟩ := hpartition hfits
    exact ⟨hresult, hslices, hcollection, fun read document _ =>
      length_buffered_le hfits gateway collection read document state⟩

/-- Three records without a field, with a blank after each comma. -/
def threeRecords : Source :=
  ⟨[0x5B, 0x7B, 0x7D, 0x2C, 0x20, 0x7B, 0x7D, 0x2C, 0x20, 0x7B, 0x7D, 0x5D], none⟩

def inPairs : Loader := ⟨2, by decide⟩

theorem threeRecords_in_pairs :
    let calls := (inPairs.load .standard (traced Recorder.insert) untyped ⟨"users"⟩ "users.json"
      threeRecords (⟨[], none⟩, [])).state.2
    Holds untyped threeRecords [.obj [], .obj [], .obj []] .closed ∧
    (∀ call ∈ calls, call.Accepted) ∧
    inPairs.batchSize ≤ Memory.standard.capacity ∧
    (inPairs.load .standard Recorder.insert untyped ⟨"users"⟩ "users.json" threeRecords
      ⟨[], none⟩).result = .ok ⟨⟨"users"⟩, 3, 2⟩ ∧
    Slices.Partition 2 [.obj [], .obj [], .obj []] (calls.map (·.batch)) := by
  have hholds : Holds untyped threeRecords [.obj [], .obj [], .obj []] .closed :=
    holds_iff.2 (by rfl)
  have hcalls : (inPairs.load .standard (traced Recorder.insert) untyped ⟨"users"⟩ "users.json"
      threeRecords (⟨[], none⟩, [])).state.2 =
        [⟨⟨"users"⟩, [.obj [], .obj []], .ok ⟨[], 2⟩⟩, ⟨⟨"users"⟩, [.obj []], .ok ⟨[], 1⟩⟩] := by
    rfl
  have haccepted : ∀ call ∈ (inPairs.load .standard (traced Recorder.insert) untyped ⟨"users"⟩
      "users.json" threeRecords (⟨[], none⟩, [])).state.2, call.Accepted := by
    rw [hcalls]
    simp [Call.Accepted]
  have hfits : inPairs.batchSize ≤ Memory.standard.capacity := by decide
  obtain ⟨hresult, hpartition, -⟩ := (load_partitions hholds haccepted).2 hfits
  exact ⟨hholds, haccepted, hfits, hresult, hpartition⟩

/-- The same records in batches of the greatest size. No call is refused, and nothing is loaded. -/
theorem threeRecords_all_at_once :
    let calls := (allAtOnce.load .standard (traced Recorder.insert) untyped ⟨"users"⟩ "users.json"
      threeRecords (⟨[], none⟩, [])).state.2
    Holds untyped threeRecords [.obj [], .obj [], .obj []] .closed ∧
    (∀ call ∈ calls, call.Accepted) ∧ calls = [] ∧
    (allAtOnce.load .standard Recorder.insert untyped ⟨"users"⟩ "users.json" threeRecords
      ⟨[], none⟩).result = .error .capacityOverflow := by
  have hlarge := capacity_lt_allAtOnce .standard
  rw [Loader.load_of_lt hlarge, Loader.load_of_lt hlarge]
  exact ⟨holds_iff.2 (by rfl), List.forall_mem_nil _, rfl, rfl⟩

end DocStore.Proofs.Load.Partition
