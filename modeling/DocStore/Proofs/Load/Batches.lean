import DocStore.Proofs.Load.Calls
import DocStore.Proofs.Load.Slices

/-!
# The batches of a load

`Progress` is the invariant of a load that no batch of has been refused: there is room for a batch,
the full slices of the documents read so far are committed, and the rest of them waits in the
buffer. One pushed document keeps it or ends the load at the refused slice, and so does a run of
them.
-/
namespace DocStore.Proofs.Load.Batches

open Calls Slices

variable {σ : Type}

/-- The calls hand over these batches one by one, and all of them are accepted. -/
structure Committed (collection : CollectionName) (batches : List (List Json))
    (calls : List Call) : Prop where
  batches_eq : calls.map (·.batch) = batches
  accepted : ∀ call ∈ calls, call.collection = collection ∧ call.Accepted

/-- The load after the documents `done`, with no batch refused. -/
structure Progress (loader : Loader) (memory : Memory) (collection : CollectionName)
    (done : List Json) (loading : Loading (σ × List Call)) : Prop where
  fits : loader.batchSize ≤ memory.capacity
  committed : Committed collection
    (slices loader.batchSize done (done.length / loader.batchSize)) loading.state.2
  buffer_eq : loading.buffer = done.drop (done.length / loader.batchSize * loader.batchSize)
  records_eq : loading.records = done.length / loader.batchSize * loader.batchSize
  batches_eq : loading.batches = done.length / loader.batchSize

/-- Slice `j` of the documents is refused. All slices before it are accepted, and nothing is handed
over after it. -/
def Refused (loader : Loader) (collection : CollectionName) (documents : List Json) (j : Nat)
    (error : Error) (calls : List Call) : Prop :=
  ∃ before, Committed collection (slices loader.batchSize documents j) before ∧
    calls = before ++ [⟨collection, slice loader.batchSize documents j, .error error⟩]

theorem Committed.nil (collection : CollectionName) : Committed collection [] [] where
  batches_eq := rfl
  accepted _ h := absurd h List.not_mem_nil

theorem Committed.concat {collection : CollectionName} {batches : List (List Json)}
    {calls : List Call} (h : Committed collection batches calls) (batch : List Json)
    (inserted : Inserted) :
    Committed collection (batches ++ [batch]) (calls ++ [⟨collection, batch, .ok inserted⟩]) where
  batches_eq := by rw [List.map_append, h.batches_eq]; rfl
  accepted call hcall := by
    rcases List.mem_append.1 hcall with hold | hnew
    · exact h.accepted call hold
    · obtain rfl := List.mem_singleton.1 hnew
      exact ⟨rfl, inserted, rfl⟩

/-- Documents that come later do not change what was refused. -/
theorem Refused.append {loader : Loader} {collection : CollectionName} {documents : List Json}
    {j : Nat} {error : Error} {calls : List Call}
    (h : Refused loader collection documents j error calls)
    (hj : (j + 1) * loader.batchSize ≤ documents.length) (more : List Json) :
    Refused loader collection (documents ++ more) j error calls := by
  obtain ⟨before, hbefore, hcalls⟩ := h
  have hj' : j * loader.batchSize ≤ documents.length :=
    Nat.le_trans (Nat.mul_le_mul_right _ (Nat.le_succ j)) hj
  refine ⟨before, ?_, ?_⟩
  · rw [slices_append hj']
    exact hbefore
  · rw [slice_append hj]
    exact hcalls

theorem Refused.exists_not_accepted {loader : Loader} {collection : CollectionName}
    {documents : List Json} {j : Nat} {error : Error} {calls : List Call}
    (h : Refused loader collection documents j error calls) : ∃ call ∈ calls, ¬ call.Accepted := by
  obtain ⟨before, -, rfl⟩ := h
  refine ⟨_, List.mem_append_right before List.mem_cons_self, ?_⟩
  rintro ⟨inserted, hresult⟩
  cases hresult

variable {memory : Memory}

theorem atStart_progress {loader : Loader} (h : loader.batchSize ≤ memory.capacity)
    (collection : CollectionName) (state : σ) :
    Progress loader memory collection []
      (Loader.atStart collection (state, ([] : List Call))) := by
  constructor
  · exact h
  · simpa [slices, Loader.atStart] using Committed.nil collection
  · simp [Loader.atStart]
  · simp [Loader.atStart]
  · simp [Loader.atStart]

/-- What waits in the buffer is less than a batch. -/
theorem Progress.buffer_lt {loader : Loader} {collection : CollectionName} {done : List Json}
    {loading : Loading (σ × List Call)} (h : Progress loader memory collection done loading) :
    loading.buffer.length < loader.batchSize := by
  have hn := Nat.div_add_mod' done.length loader.batchSize
  have hlt := Nat.mod_lt done.length loader.batchSize_pos
  rw [h.buffer_eq, List.length_drop]
  omega

/-- A commit makes one call, which empties the buffer. -/
theorem commit_cases (gateway : Gateway σ) (collection : CollectionName)
    (loading : Loading (σ × List Call)) :
    (∃ error loading', Loader.commit (traced gateway) collection loading =
        (some error, loading') ∧
      loading'.buffer = [] ∧
      loading'.state.2 = loading.state.2 ++ [⟨collection, loading.buffer, .error error⟩]) ∨
    (∃ inserted loading', Loader.commit (traced gateway) collection loading = (none, loading') ∧
      loading'.buffer = [] ∧ loading'.records = loading.records + loading.buffer.length ∧
      loading'.batches = loading.batches + 1 ∧
      loading'.state.2 = loading.state.2 ++ [⟨collection, loading.buffer, .ok inserted⟩]) := by
  cases hresult : (gateway collection loading.buffer loading.state.1).result with
  | error error =>
    refine .inl ⟨error, (Loader.commit (traced gateway) collection loading).2, ?_, ?_, ?_⟩ <;>
      simp [Loader.commit, traced, hresult]
  | ok inserted =>
    refine .inr ⟨inserted, (Loader.commit (traced gateway) collection loading).2, ?_, ?_, ?_, ?_,
      ?_⟩ <;> simp [Loader.commit, traced, hresult]

variable {loader : Loader} {collection : CollectionName} {done : List Json}
variable {loading : Loading (σ × List Call)}

/-- A full buffer is the next slice of the documents. -/
theorem Progress.full_eq_slice (h : Progress loader memory collection done loading)
    {document : Json} (hfull : (loading.buffer ++ [document]).length = loader.batchSize) :
    loading.buffer ++ [document] =
      slice loader.batchSize (done ++ [document]) (done.length / loader.batchSize) := by
  have hle := Nat.div_mul_le_self done.length loader.batchSize
  unfold slice
  rw [List.drop_append_of_le_length hle, ← h.buffer_eq, ← hfull, List.take_length]

theorem Progress.length_of_full (h : Progress loader memory collection done loading)
    {document : Json} (hfull : (loading.buffer ++ [document]).length = loader.batchSize) :
    done.length + 1 = (done.length / loader.batchSize + 1) * loader.batchSize := by
  have hle := Nat.div_mul_le_self done.length loader.batchSize
  rw [List.length_append, List.length_singleton, h.buffer_eq, List.length_drop] at hfull
  rw [Nat.succ_mul]
  omega

/-- One document is buffered, or it fills a batch that is accepted, or one that is refused. -/
theorem push_progress (gateway : Gateway σ) (h : Progress loader memory collection done loading)
    (document : Json) :
    (∃ loading',
      loader.push memory (traced gateway) collection document loading = (none, loading') ∧
      Progress loader memory collection (done ++ [document]) loading') ∨
    (∃ j error loading',
      loader.push memory (traced gateway) collection document loading = (some error, loading') ∧
      loading'.buffer = [] ∧ (j + 1) * loader.batchSize ≤ (done ++ [document]).length ∧
      Refused loader collection (done ++ [document]) j error loading'.state.2) := by
  have hle := Nat.div_mul_le_self done.length loader.batchSize
  by_cases hfull : (loading.buffer ++ [document]).length = loader.batchSize
  · have hslice := h.full_eq_slice hfull
    have hlength := h.length_of_full hfull
    have hbefore : Committed collection (slices loader.batchSize (done ++ [document])
        (done.length / loader.batchSize)) loading.state.2 := by
      rw [slices_append hle]
      exact h.committed
    have hne : (buffered document loading).buffer ≠ [] := by simp [buffered]
    rw [push_full memory (traced gateway) collection hfull,
      Loader.flush_of_le h.fits (traced gateway) collection hne]
    rcases commit_cases gateway collection (buffered document loading) with
      ⟨error, loading', hcommit, hbuffer, hcalls⟩ |
      ⟨inserted, loading', hcommit, hbuffer, hrecords, hbatches, hcalls⟩
    · refine .inr ⟨done.length / loader.batchSize, error, loading', hcommit, hbuffer, ?_,
        loading.state.2, hbefore, ?_⟩
      · rw [List.length_append, List.length_singleton, hlength]
      · rw [hcalls, ← hslice]
        rfl
    · have hdiv : (done ++ [document]).length / loader.batchSize =
          done.length / loader.batchSize + 1 := by
        rw [List.length_append, List.length_singleton, hlength,
          Nat.mul_div_cancel _ loader.batchSize_pos]
      refine .inl ⟨loading', hcommit, h.fits, ?_, ?_, ?_, ?_⟩
      · rw [hdiv, slices_succ, hcalls, ← hslice]
        exact hbefore.concat _ inserted
      · rw [hbuffer, hdiv, ← hlength, List.drop_of_length_le (by simp)]
      · rw [hrecords, hdiv, Nat.succ_mul, ← h.records_eq, ← hfull]
        rfl
      · rw [hbatches, hdiv, ← h.batches_eq]
        rfl
  · have hlt := h.buffer_lt
    have hdiv : (done ++ [document]).length / loader.batchSize =
        done.length / loader.batchSize := by
      rw [List.length_append, List.length_singleton, h.buffer_eq, List.length_drop] at hfull
      rw [h.buffer_eq, List.length_drop] at hlt
      rw [List.length_append, List.length_singleton]
      apply Nat.div_eq_of_lt_le
      · omega
      · rw [Nat.succ_mul]
        omega
    refine .inl ⟨_, push_room memory (traced gateway) collection hfull, h.fits, ?_, ?_, ?_, ?_⟩
    · rw [hdiv, slices_append hle]
      exact h.committed
    · rw [hdiv, List.drop_append_of_le_length hle, ← h.buffer_eq]
      rfl
    · rw [hdiv]
      exact h.records_eq
    · rw [hdiv]
      exact h.batches_eq

/-- A run of documents keeps the invariant, or it ends at the first batch that is refused. -/
theorem pushAll_progress (gateway : Gateway σ) (documents : List Json)
    (h : Progress loader memory collection done loading) :
    (∃ loading',
      loader.pushAll memory (traced gateway) collection documents loading = (none, loading') ∧
      Progress loader memory collection (done ++ documents) loading') ∨
    (∃ j error loading',
      loader.pushAll memory (traced gateway) collection documents loading =
        (some error, loading') ∧
      loading'.buffer = [] ∧ (j + 1) * loader.batchSize ≤ (done ++ documents).length ∧
      Refused loader collection (done ++ documents) j error loading'.state.2) := by
  induction documents generalizing done loading with
  | nil => exact .inl ⟨loading, rfl, by rwa [List.append_nil]⟩
  | cons document rest ih =>
    have hassoc : done ++ document :: rest = (done ++ [document]) ++ rest := by simp
    rw [hassoc]
    rcases push_progress gateway h document with
      ⟨loading', hpush, hprogress⟩ | ⟨j, error, loading', hpush, hbuffer, hj, hrefused⟩
    · have hrun : loader.pushAll memory (traced gateway) collection (document :: rest) loading =
          loader.pushAll memory (traced gateway) collection rest loading' := by
        simp only [Loader.pushAll, hpush]
      rw [hrun]
      exact ih hprogress
    · refine .inr ⟨j, error, loading', ?_, hbuffer, ?_, hrefused.append hj rest⟩
      · simp only [Loader.pushAll, hpush]
      · rw [List.length_append]
        omega

/-- At the end of the list the rest of the documents makes one more slice, unless there is none. -/
theorem flush_progress (gateway : Gateway σ) (h : Progress loader memory collection done loading) :
    (∃ loading', loader.flush memory (traced gateway) collection loading = (none, loading') ∧
      Committed collection
        (slices loader.batchSize done (done.length ⌈/⌉ loader.batchSize)) loading'.state.2 ∧
      loading'.records = done.length ∧
      loading'.batches = done.length ⌈/⌉ loader.batchSize) ∨
    (∃ j error loading',
      loader.flush memory (traced gateway) collection loading = (some error, loading') ∧
      j < done.length ⌈/⌉ loader.batchSize ∧
      Refused loader collection done j error loading'.state.2) := by
  have hn := Nat.div_add_mod' done.length loader.batchSize
  have hlength : loading.buffer.length = done.length % loader.batchSize := by
    rw [h.buffer_eq, List.length_drop]
    omega
  rcases Nat.eq_zero_or_pos (done.length % loader.batchSize) with hzero | hpos
  · have hbuffer : loading.buffer = [] := List.eq_nil_of_length_eq_zero (hlength.trans hzero)
    refine .inl ⟨loading,
      loader.flush_of_empty memory (traced gateway) collection hbuffer, ?_, ?_, ?_⟩
    · rw [ceilDiv_of_dvd loader.batchSize_pos hzero]
      exact h.committed
    · rw [h.records_eq]
      omega
    · rw [ceilDiv_of_dvd loader.batchSize_pos hzero, h.batches_eq]
  · have hne : loading.buffer ≠ [] := List.ne_nil_of_length_pos (hlength ▸ hpos)
    have hceil := ceilDiv_of_not_dvd loader.batchSize_pos hpos
    have hslice : loading.buffer =
        slice loader.batchSize done (done.length / loader.batchSize) := by
      have hlt := h.buffer_lt
      unfold slice
      rw [← h.buffer_eq, List.take_of_length_le (by omega)]
    rw [Loader.flush_of_le h.fits (traced gateway) collection hne]
    rcases commit_cases gateway collection loading with
      ⟨error, loading', hcommit, -, hcalls⟩ |
      ⟨inserted, loading', hcommit, -, hrecords, hbatches, hcalls⟩
    · refine .inr ⟨done.length / loader.batchSize, error, loading', hcommit, by omega,
        loading.state.2, h.committed, ?_⟩
      rw [hcalls, ← hslice]
    · refine .inl ⟨loading', hcommit, ?_, ?_, ?_⟩
      · rw [hceil, slices_succ, hcalls, ← hslice]
        exact h.committed.concat _ inserted
      · rw [hrecords, h.records_eq, hlength]
        omega
      · rw [hbatches, hceil, h.batches_eq]

end DocStore.Proofs.Load.Batches
