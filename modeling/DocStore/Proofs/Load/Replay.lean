import DocStore.Proofs.Load.Failure
import DocStore.Proofs.Store.Parts

/-!
# The calls of a load and the gateway behind them

The calls that a traced load has kept are made on the plain gateway one after the other, with the
answers that they say, and lead to the state in which the load leaves it. On a store the accepted
ones are parts of one batch.
-/
namespace DocStore.Proofs.Load.Replay

open Batches Calls Contents Failure Slices
open Store.Parts (Accepted AcceptedInTurn)

variable {σ : Type}

/-- The gateway answers the calls as they say and is left in the last state. -/
inductive Follows (gateway : Gateway σ) : σ → List Call → σ → Prop
  | nil {state : σ} : Follows gateway state [] state
  | cons {state last : σ} {call : Call} {calls : List Call} :
      (gateway call.collection call.batch state).result = call.result →
      Follows gateway (gateway call.collection call.batch state).state calls last →
      Follows gateway state (call :: calls) last

variable {gateway : Gateway σ} {state last : σ} {collection : CollectionName}

theorem follows_append_iff {calls more : List Call} :
    Follows gateway state (calls ++ more) last ↔
      ∃ middle, Follows gateway state calls middle ∧ Follows gateway middle more last := by
  constructor
  · intro h
    induction calls generalizing state with
    | nil => exact ⟨state, .nil, h⟩
    | cons call rest ih =>
      cases h with
      | cons hresult hrest =>
        obtain ⟨middle, hcalls, hmore⟩ := ih hrest
        exact ⟨middle, .cons hresult hcalls, hmore⟩
  · rintro ⟨middle, hcalls, hmore⟩
    induction hcalls with
    | nil => exact hmore
    | cons hresult _ ih => exact .cons hresult (ih hmore)

/-- One more call, on the gateway as it is left by the calls before. -/
theorem Follows.concat {calls : List Call} (h : Follows gateway state calls last)
    (collection : CollectionName) (batch : List Json) :
    Follows gateway state
      (calls ++ [⟨collection, batch, (gateway collection batch last).result⟩])
      (gateway collection batch last).state :=
  follows_append_iff.2 ⟨last, h, .cons rfl .nil⟩

/-! ## Every step of a load -/

/-- The calls of a load under way lead from `start` to its state. -/
def Kept (gateway : Gateway σ) (start : σ) (loading : Loading (σ × List Call)) : Prop :=
  Follows gateway start loading.state.2 loading.state.1

variable {start : σ} {loading : Loading (σ × List Call)}

theorem Kept.commit (h : Kept gateway start loading) :
    Kept gateway start (Loader.commit (traced gateway) collection loading).2 := by
  have hcall := h.concat collection loading.buffer
  cases hresult : (gateway collection loading.buffer loading.state.1).result <;>
    simpa [Kept, Loader.commit, traced, hresult] using hcall

variable (loader : Loader) (memory : Memory)

theorem Kept.flush (h : Kept gateway start loading) :
    Kept gateway start (loader.flush memory (traced gateway) collection loading).2 := by
  unfold Loader.flush
  split
  · exact h
  · cases memory.reserve loader.batchSize with
    | error error => exact h
    | ok _ => exact h.commit

theorem Kept.push (h : Kept gateway start loading) (document : Json) :
    Kept gateway start (loader.push memory (traced gateway) collection document loading).2 := by
  have hbuffered : Kept gateway start (buffered document loading) := h
  by_cases hfull : (loading.buffer ++ [document]).length = loader.batchSize
  · rw [push_full memory (traced gateway) collection hfull]
    exact hbuffered.flush loader memory
  · rw [push_room memory (traced gateway) collection hfull]
    exact hbuffered

theorem Kept.pushAll (h : Kept gateway start loading) (documents : List Json) :
    Kept gateway start
      (loader.pushAll memory (traced gateway) collection documents loading).2 := by
  induction documents generalizing loading with
  | nil => exact h
  | cons document rest ih =>
    have hpush : Kept gateway start
        (loader.push memory (traced gateway) collection document loading).2 :=
      h.push loader memory document
    unfold Loader.pushAll
    split
    · rename_i loading' heq
      rw [heq] at hpush
      exact ih hpush
    · exact hpush

theorem Kept.finish (h : Kept gateway start loading) (name : String) (ending : Ending) :
    Kept gateway start
      (loader.finish memory (traced gateway) collection name ending loading).2 := by
  have hflush : Kept gateway start (loader.flush memory (traced gateway) collection loading).2 :=
    h.flush loader memory
  cases ending with
  | failed failure => exact h
  | unwritable fault => exact h
  | closed => exact hflush
  | spoiled failure =>
    simp only [Loader.finish]
    split
    · rename_i loading' heq
      rw [heq] at hflush
      exact hflush
    · exact hflush

theorem begun_kept (gateway : Gateway σ) (collection : CollectionName) (state : σ) :
    Kept gateway state (loader.begun memory collection (state, [])).2 := by
  unfold Loader.begun
  cases memory.reserve loader.batchSize <;> exact .nil

theorem run_kept (gateway : Gateway σ) (collection : CollectionName) (name : String)
    (reading : Reading) (state : σ) :
    Kept gateway state
      (loader.run memory (traced gateway) collection name reading (state, [])).2 := by
  have hbegun := begun_kept loader memory gateway collection state
  unfold Loader.run
  split
  · rename_i loading heq
    rw [heq] at hbegun
    have hpushed : Kept gateway state
        (loader.pushAll memory (traced gateway) collection reading.documents loading).2 :=
      Kept.pushAll loader memory hbegun reading.documents
    split
    · rename_i loading' heq'
      rw [heq'] at hpushed
      exact Kept.finish loader memory hpushed name reading.ending
    · exact hpushed
  · exact hbegun

theorem load_follows (gateway : Gateway σ) (record : RecordReader) (collection : CollectionName)
    (name : String) (source : Source) (state : σ) :
    let outcome := loader.load memory (traced gateway) record collection name source (state, [])
    Follows gateway state outcome.state.2 outcome.state.1 := by
  have hrun := run_kept loader memory gateway collection name (.ofSource record source) state
  simp only [Loader.load]
  split <;> rename_i heq <;> rw [heq] at hrun <;> exact hrun

/-! ## Calls on a store -/

/-- Batches that are committed to a store are accepted in turn. -/
theorem acceptedInTurn_of_committed {batches : List (List Json)} {calls : List Call}
    {store last : Store} (h : Committed collection batches calls)
    (hfollows : Follows Store.insertMany store calls last) :
    AcceptedInTurn collection store batches last := by
  obtain ⟨rfl, haccepted⟩ := h
  induction hfollows with
  | nil => rfl
  | @cons state last call rest hresult _ ih =>
    obtain ⟨hcollection, inserted, hok⟩ := haccepted call List.mem_cons_self
    have hrest := ih fun other hother => haccepted other (List.mem_cons_of_mem call hother)
    rw [hcollection] at hresult hrest
    exact ⟨_, ⟨⟨inserted, hresult.trans hok⟩, rfl⟩, hrest⟩

end DocStore.Proofs.Load.Replay
