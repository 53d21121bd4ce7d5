import DocStore.Load.Recorder
import DocStore.Proofs.Load.Batches
import DocStore.Proofs.Load.Contents

/-!
# How a load fails

A load ends with the first thing that goes wrong, be it in the source or at the gateway. The batches
before that are committed, each a slice of the documents, and nothing is handed over afterwards. For
this there must be room for a batch. Otherwise the load panics before it begins to read.
-/
namespace DocStore.Proofs.Load.Failure

open Batches Calls Contents Slices

variable {σ : Type}

/-- How many batches a load makes of `n` documents if none is refused. The rest that fills no batch
is committed only where the list of records is complete. -/
def planned (size n : Nat) : Ending → Nat
  | .closed | .spoiled _ => n ⌈/⌉ size
  | .failed _ | .unwritable _ => n / size

/-- The answer of a load of `n` documents no batch of which is refused. -/
def answer (collection : CollectionName) (name : String) (size n : Nat) :
    Ending → Except Error Summary
  | .closed => .ok ⟨collection, n, n ⌈/⌉ size⟩
  | .spoiled (.fault fault) | .failed (.fault fault) => .error (.malformedInput name fault)
  | .spoiled (.broken fault) | .failed (.broken fault) => .error (.readFailure name fault)
  | .unwritable fault => .error (.record fault)

/-- A batch that is refused ends the load with its error, and without it the load ends with the
reading. -/
def Ends (loader : Loader) (collection : CollectionName) (name : String) (documents : List Json)
    (ending : Ending) (result : Except Error Summary) (calls : List Call) : Prop :=
  let count := planned loader.batchSize documents.length ending
  (∃ j error, j < count ∧ Refused loader collection documents j error calls ∧
    result = .error error) ∨
  (Committed collection (slices loader.batchSize documents count) calls ∧
    result = answer collection name loader.batchSize documents.length ending)

/-- What a load answers, given how its run ended. -/
def verdict (collection : CollectionName) :
    Option Error × Loading (σ × List Call) → Except Error Summary
  | (some error, _) => .error error
  | (none, loading) => .ok ⟨collection, loading.records, loading.batches⟩

theorem div_le_ceilDiv (size n : Nat) : n / size ≤ n ⌈/⌉ size := by
  rw [← Nat.floorDiv_eq_div]
  exact floorDiv_le_ceilDiv

theorem div_le_planned (size n : Nat) (ending : Ending) :
    n / size ≤ planned size n ending := by
  cases ending with
  | closed | spoiled => exact div_le_ceilDiv size n
  | failed | unwritable => exact Nat.le_refl _

theorem planned_le_ceilDiv (size n : Nat) (ending : Ending) :
    planned size n ending ≤ n ⌈/⌉ size := by
  cases ending with
  | closed | spoiled => exact Nat.le_refl _
  | failed | unwritable => exact div_le_ceilDiv size n

theorem answer_failed (collection : CollectionName) (name : String) (size n : Nat)
    (failure : Json.Failure) :
    answer collection name size n (.failed failure) = .error (Loader.errorOf name failure) := by
  cases failure <;> rfl

theorem answer_spoiled (collection : CollectionName) (name : String) (size n : Nat)
    (failure : Json.Failure) :
    answer collection name size n (.spoiled failure) = .error (Loader.errorOf name failure) := by
  cases failure <;> rfl

/-- A load succeeds only on a list of records that is read to its end. -/
theorem closed_of_answer_ok {collection : CollectionName} {name : String} {size n : Nat}
    {ending : Ending} {summary : Summary}
    (h : answer collection name size n ending = .ok summary) : ending = .closed := by
  cases ending with
  | closed => rfl
  | spoiled failure => cases failure <;> cases h
  | failed failure => cases failure <;> cases h
  | unwritable fault => cases h

theorem answer_ne_overflow (collection : CollectionName) (name : String) (size n : Nat)
    (ending : Ending) : answer collection name size n ending ≠ .error .capacityOverflow := by
  cases ending with
  | closed | unwritable => simp [answer]
  | spoiled failure | failed failure => cases failure <;> simp [answer]

variable {loader : Loader} {memory : Memory} {collection : CollectionName}
variable {documents : List Json} {loading : Loading (σ × List Call)}

/-- A panic before the first call is none of the ends of a load. -/
theorem not_ends_of_overflow (loader : Loader) (collection : CollectionName) (name : String)
    (documents : List Json) (ending : Ending) :
    ¬ Ends loader collection name documents ending (.error .capacityOverflow) [] := by
  rintro (⟨j, error, -, ⟨before, -, hcalls⟩, -⟩ | ⟨-, hanswer⟩)
  · simp at hcalls
  · exact answer_ne_overflow collection name _ _ ending hanswer.symm

theorem finish_ends (gateway : Gateway σ) (h : Progress loader memory collection documents loading)
    (name : String) (ending : Ending) :
    let run := loader.finish memory (traced gateway) collection name ending loading
    Ends loader collection name documents ending (verdict collection run) run.2.state.2 := by
  cases ending with
  | failed failure =>
    refine .inr ⟨h.committed, ?_⟩
    rw [answer_failed]
    rfl
  | unwritable fault => exact .inr ⟨h.committed, rfl⟩
  | closed =>
    simp only [Loader.finish]
    rcases flush_progress gateway h with
      ⟨loading', hflush, hcommitted, hrecords, hbatches⟩ |
      ⟨j, error, loading', hflush, hj, hrefused⟩
    · rw [hflush]
      refine .inr ⟨hcommitted, ?_⟩
      simp only [verdict, answer, hrecords, hbatches]
    · rw [hflush]
      exact .inl ⟨j, error, hj, hrefused, rfl⟩
  | spoiled failure =>
    simp only [Loader.finish]
    rcases flush_progress gateway h with
      ⟨loading', hflush, hcommitted, -, -⟩ | ⟨j, error, loading', hflush, hj, hrefused⟩
    · rw [hflush]
      refine .inr ⟨hcommitted, ?_⟩
      rw [answer_spoiled]
      rfl
    · rw [hflush]
      exact .inl ⟨j, error, hj, hrefused, rfl⟩

theorem run_ends (hfits : loader.batchSize ≤ memory.capacity) (gateway : Gateway σ)
    (collection : CollectionName) (name : String) (reading : Reading) (state : σ) :
    let run := loader.run memory (traced gateway) collection name reading (state, [])
    Ends loader collection name reading.documents reading.ending (verdict collection run)
      run.2.state.2 := by
  simp only [Loader.run, Loader.begun_of_le hfits]
  rcases pushAll_progress gateway reading.documents (atStart_progress hfits collection state) with
    ⟨loading, hpush, hprogress⟩ | ⟨j, error, loading, hpush, -, hj, hrefused⟩
  · rw [hpush]
    exact finish_ends gateway hprogress name reading.ending
  · rw [hpush]
    rw [List.nil_append] at hj hrefused
    have hdiv : j < reading.documents.length / loader.batchSize :=
      (Nat.le_div_iff_mul_le loader.batchSize_pos).2 hj
    have hplanned := div_le_planned loader.batchSize reading.documents.length
      reading.ending
    exact .inl ⟨j, error, Nat.lt_of_lt_of_le hdiv hplanned, hrefused, rfl⟩

theorem load_ends (hfits : loader.batchSize ≤ memory.capacity) (gateway : Gateway σ)
    (record : RecordReader) (collection : CollectionName) (name : String) (source : Source)
    (state : σ) :
    let outcome := loader.load memory (traced gateway) record collection name source (state, [])
    let reading := Reading.ofSource record source
    Ends loader collection name reading.documents reading.ending outcome.result
      outcome.state.2 := by
  have hends := run_ends hfits gateway collection name (.ofSource record source) state
  simp only [Loader.load]
  generalize loader.run memory (traced gateway) collection name (.ofSource record source)
    (state, []) = run at hends ⊢
  obtain ⟨stopped, loading⟩ := run
  cases stopped <;> exact hends

theorem load_ends_iff (loader : Loader) (memory : Memory) (gateway : Gateway σ)
    (record : RecordReader) (collection : CollectionName) (name : String) (source : Source)
    (state : σ) :
    let outcome := loader.load memory (traced gateway) record collection name source (state, [])
    let reading := Reading.ofSource record source
    Ends loader collection name reading.documents reading.ending outcome.result outcome.state.2 ↔
      loader.batchSize ≤ memory.capacity := by
  refine ⟨fun hends => ?_, fun hfits => load_ends hfits gateway record collection name source state⟩
  by_contra hlarge
  rw [Loader.load_of_lt (Nat.not_le.1 hlarge)] at hends
  exact not_ends_of_overflow loader collection name _ _ hends

/-- A source holds one list of documents with one ending. A load of it commits the slices of this
list in order and answers what the ending calls for, or else the gateway refuses one of the slices:
then all slices before it are committed, it makes no further call, and the error is the gateway's.
So it is exactly if there is room for a batch. Where there is none, the load panics once it has been
told of, whatever its source holds, and makes no call. -/
theorem load_reports_first_failure (loader : Loader) (memory : Memory) (gateway : Gateway σ)
    (record : RecordReader) (collection : CollectionName) (name : String) (source : Source)
    (state : σ) :
    ∃ documents ending,
      (∀ documents' ending', Holds record source documents' ending' ↔
        documents' = documents ∧ ending' = ending) ∧
      let outcome := loader.load memory (traced gateway) record collection name source (state, [])
      (Ends loader collection name documents ending outcome.result outcome.state.2 ↔
        loader.batchSize ≤ memory.capacity) ∧
      (memory.capacity < loader.batchSize →
        outcome.result = .error .capacityOverflow ∧ outcome.state = (state, []) ∧
          outcome.lines = [Loader.beginLine collection]) ∧
      loader.load memory gateway record collection name source state =
        { outcome with state := outcome.state.1 } := by
  refine ⟨_, _, fun documents' ending' => ?_,
    load_ends_iff loader memory gateway record collection name source state, fun hlarge => ?_,
    load_traced memory gateway collection loader record name source state []⟩
  · rw [holds_iff]
    constructor
    · intro h
      rw [h]
      exact ⟨rfl, rfl⟩
    · rintro ⟨rfl, rfl⟩
      rfl
  · rw [Loader.load_of_lt hlarge]
    exact ⟨rfl, rfl, rfl⟩

/-! ## The greatest size -/

/-- Batches of the greatest size that can be asked for. -/
def allAtOnce : Loader := ⟨UInt64.size - 1, by decide⟩

theorem capacity_lt_allAtOnce (memory : Memory) : memory.capacity < allAtOnce.batchSize :=
  memory.capacity_lt_greatest

/-- Three records and no closing bracket: `[{},{},{}`. -/
def cutShort : Source := ⟨[0x5B, 0x7B, 0x7D, 0x2C, 0x7B, 0x7D, 0x2C, 0x7B, 0x7D], none⟩

/-- The source ends within its list, and no load reports this that is to make one batch of all. -/
theorem cutShort_all_at_once :
    let documents := [.obj [], .obj [], .obj []]
    let ending : Ending := .failed (.fault .endInList)
    let outcome := allAtOnce.load .standard (traced Recorder.insert) untyped ⟨"users"⟩ "users.json"
      cutShort (⟨[], none⟩, [])
    Holds untyped cutShort documents ending ∧
    answer ⟨"users"⟩ "users.json" allAtOnce.batchSize 3 ending =
      .error (.malformedInput "users.json" .endInList) ∧
    outcome.result = .error .capacityOverflow ∧
    ¬ Ends allAtOnce ⟨"users"⟩ "users.json" documents ending outcome.result outcome.state.2 := by
  intro documents ending outcome
  have houtcome : outcome = _ := Loader.load_of_lt (capacity_lt_allAtOnce .standard) _ _ _ _ _ _
  rw [houtcome]
  exact ⟨holds_iff.2 (by rfl), rfl, rfl,
    not_ends_of_overflow allAtOnce ⟨"users"⟩ "users.json" documents ending⟩

end DocStore.Proofs.Load.Failure
