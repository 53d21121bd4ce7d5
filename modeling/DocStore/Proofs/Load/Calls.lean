import DocStore.Load.Loader

/-!
# The calls of a load

A traced gateway answers like the gateway and keeps each call with its answer, in order. A load sees
no difference, so that what is shown of the calls holds of the load through the plain gateway.
-/
namespace DocStore.Proofs.Load.Calls

variable {σ : Type}

/-- One insert, with what the gateway answered. -/
structure Call where
  collection : CollectionName
  batch : List Json
  result : Except Error Inserted

def Call.Accepted (call : Call) : Prop := ∃ inserted, call.result = .ok inserted

def traced (gateway : Gateway σ) : Gateway (σ × List Call) := fun collection batch state =>
  let outcome := gateway collection batch state.1
  { outcome with state := (outcome.state, state.2 ++ [⟨collection, batch, outcome.result⟩]) }

/-- A load under way without its calls. -/
def untraced (loading : Loading (σ × List Call)) : Loading σ :=
  { loading with state := loading.state.1 }

/-- A load under way with one more document in its buffer. -/
def buffered (document : Json) (loading : Loading σ) : Loading σ :=
  { loading with buffer := loading.buffer ++ [document] }

variable {loader : Loader} (memory : Memory) (gateway : Gateway σ) (collection : CollectionName)

theorem push_full {document : Json} {loading : Loading σ}
    (h : (loading.buffer ++ [document]).length = loader.batchSize) :
    loader.push memory gateway collection document loading =
      loader.flush memory gateway collection (buffered document loading) := if_pos h

theorem push_room {document : Json} {loading : Loading σ}
    (h : (loading.buffer ++ [document]).length ≠ loader.batchSize) :
    loader.push memory gateway collection document loading =
      (none, buffered document loading) := if_neg h

variable (loader : Loader)

theorem commit_untraced (loading : Loading (σ × List Call)) :
    Loader.commit gateway collection (untraced loading) =
      Prod.map id untraced (Loader.commit (traced gateway) collection loading) := by
  obtain ⟨⟨state, calls⟩, buffer, records, batches, lines⟩ := loading
  cases hresult : (gateway collection buffer state).result <;>
    simp [Loader.commit, untraced, traced, hresult, Loader.committedLine]

theorem flush_untraced (loading : Loading (σ × List Call)) :
    loader.flush memory gateway collection (untraced loading) =
      Prod.map id untraced (loader.flush memory (traced gateway) collection loading) := by
  have hbuffer : (untraced loading).buffer = loading.buffer := rfl
  unfold Loader.flush
  rw [hbuffer]
  split
  · rfl
  · cases memory.reserve loader.batchSize with
    | error error => rfl
    | ok _ => exact commit_untraced gateway collection loading

theorem push_untraced (document : Json) (loading : Loading (σ × List Call)) :
    loader.push memory gateway collection document (untraced loading) =
      Prod.map id untraced (loader.push memory (traced gateway) collection document loading) := by
  by_cases hfull : (loading.buffer ++ [document]).length = loader.batchSize
  · rw [push_full memory gateway collection hfull,
      push_full memory (traced gateway) collection hfull]
    exact flush_untraced memory gateway collection loader (buffered document loading)
  · rw [push_room memory gateway collection hfull,
      push_room memory (traced gateway) collection hfull]
    rfl

theorem pushAll_untraced (documents : List Json) (loading : Loading (σ × List Call)) :
    loader.pushAll memory gateway collection documents (untraced loading) =
      Prod.map id untraced
        (loader.pushAll memory (traced gateway) collection documents loading) := by
  induction documents generalizing loading with
  | nil => rfl
  | cons document rest ih =>
    simp only [Loader.pushAll, push_untraced]
    obtain ⟨stopped, loading'⟩ := loader.push memory (traced gateway) collection document loading
    cases stopped with
    | none => exact ih loading'
    | some error => rfl

theorem finish_untraced (name : String) (ending : Ending) (loading : Loading (σ × List Call)) :
    loader.finish memory gateway collection name ending (untraced loading) =
      Prod.map id untraced
        (loader.finish memory (traced gateway) collection name ending loading) := by
  cases ending with
  | failed failure => rfl
  | unwritable fault => rfl
  | closed => exact flush_untraced memory gateway collection loader loading
  | spoiled failure =>
    simp only [Loader.finish, flush_untraced]
    obtain ⟨stopped, loading'⟩ := loader.flush memory (traced gateway) collection loading
    cases stopped <;> rfl

theorem begun_untraced (state : σ) (calls : List Call) :
    loader.begun memory collection state =
      Prod.map id untraced (loader.begun memory collection (state, calls)) := by
  unfold Loader.begun
  cases memory.reserve loader.batchSize <;> rfl

theorem run_untraced (name : String) (reading : Reading) (state : σ) (calls : List Call) :
    loader.run memory gateway collection name reading state =
      Prod.map id untraced
        (loader.run memory (traced gateway) collection name reading (state, calls)) := by
  simp only [Loader.run, begun_untraced memory collection loader state calls]
  obtain ⟨_ | error, loading⟩ := loader.begun memory collection (state, calls)
  · simp only [Prod.map, id, pushAll_untraced]
    obtain ⟨_ | error, loading'⟩ :=
      loader.pushAll memory (traced gateway) collection reading.documents loading
    · exact finish_untraced memory gateway collection loader name reading.ending loading'
    · rfl
  · rfl

/-- Tracing the calls of a load changes neither its answer nor what it does to the gateway. -/
theorem load_traced (record : RecordReader) (name : String) (source : Source) (state : σ)
    (calls : List Call) :
    let outcome := loader.load memory (traced gateway) record collection name source (state, calls)
    loader.load memory gateway record collection name source state =
      { outcome with state := outcome.state.1 } := by
  simp only [Loader.load, run_untraced memory gateway collection loader name _ state calls]
  obtain ⟨stopped, loading⟩ := loader.run memory (traced gateway) collection name
    (.ofSource record source) (state, calls)
  cases stopped <;> rfl

end DocStore.Proofs.Load.Calls
