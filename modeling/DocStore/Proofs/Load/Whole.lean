import DocStore.Proofs.Load.Partition
import DocStore.Proofs.Load.Replay

/-!
# A load as one batch

A load cuts the documents of its source into batches and inserts them in turn. A store accepts the
batches exactly if it accepts all documents at once, and becomes the same. So neither the success of
a load nor what it leaves depends on the size of the batches, as long as there is room for one.
-/
namespace DocStore.Proofs.Load.Whole

open Batches Calls Contents Failure Replay Slices
open Store.Parts

variable {record : RecordReader} {source : Source} {documents : List Json}
variable {collection : CollectionName} {store after : Store} {name : String}
variable {loader : Loader} {memory : Memory}

/-- A load that succeeds has read a list of records to its end and has committed all of it. -/
theorem accepted_of_ok {summary : Summary}
    (hok : (loader.load memory Store.insertMany record collection name source store).result =
      .ok summary) :
    ∃ documents, Holds record source documents .closed ∧
      AcceptedInTurn collection store
        (slices loader.batchSize documents (documents.length ⌈/⌉ loader.batchSize))
        (loader.load memory Store.insertMany record collection name source store).state := by
  have hends :=
    load_ends (Loader.fits_of_ok hok) Store.insertMany record collection name source store
  have hfollows :=
    load_follows loader memory Store.insertMany record collection name source store
  rw [load_traced memory Store.insertMany collection loader record name source store []] at hok ⊢
  generalize hreading : Reading.ofSource record source = reading at hends
  obtain ⟨documents, ending⟩ := reading
  rcases hends with ⟨j, error, -, -, herror⟩ | ⟨hcommitted, hanswer⟩
  · rw [herror] at hok
    cases hok
  · obtain rfl := closed_of_answer_ok (hanswer.symm.trans hok)
    exact ⟨documents, holds_iff.2 hreading, acceptedInTurn_of_committed hcommitted hfollows⟩

/-- Where the whole list is accepted no slice of it is refused. -/
theorem not_refused_of_accepted {j : Nat} {error : Error} {calls : List Call} {last : Store}
    (h : Accepted collection store documents after)
    (hrefused : Refused loader collection documents j error calls)
    (hfollows : Follows Store.insertMany store calls last) : False := by
  obtain ⟨before, hcommitted, rfl⟩ := hrefused
  obtain ⟨middle, hbefore, hlast⟩ := follows_append_iff.1 hfollows
  have hmiddle := acceptedInTurn_of_committed hcommitted hbefore
  -- The slices up to the refused one are the front of the list, which is accepted too.
  rw [← List.take_append_drop ((j + 1) * loader.batchSize) documents] at h
  obtain ⟨front, hfront, -⟩ := accepted_append_iff.1 h
  rw [← flatten_slices, ← acceptedInTurn_iff (by simp [slices_succ]), slices_succ,
    acceptedInTurn_append_iff] at hfront
  obtain ⟨middle', hmiddle', after, ⟨⟨inserted, hok⟩, -⟩, -⟩ := hfront
  obtain rfl := hmiddle.unique hmiddle'
  cases hlast with
  | cons hresult _ =>
    rw [hok] at hresult
    cases hresult

/-- With room for a batch, a load of a list of records succeeds if the store accepts the list as one
batch. -/
theorem ok_of_accepted (hfits : loader.batchSize ≤ memory.capacity)
    (hholds : Holds record source documents .closed)
    (h : Accepted collection store documents after) :
    ∃ summary, (loader.load memory Store.insertMany record collection name source store).result =
      .ok summary := by
  have hends := load_ends hfits Store.insertMany record collection name source store
  have hfollows :=
    load_follows loader memory Store.insertMany record collection name source store
  rw [load_traced memory Store.insertMany collection loader record name source store []]
  rw [holds_iff.1 hholds] at hends
  rcases hends with ⟨j, error, -, hrefused, -⟩ | ⟨-, hanswer⟩
  · exact (not_refused_of_accepted h hrefused hfollows).elim
  · exact ⟨_, hanswer⟩

theorem holds_unique {documents' : List Json} {ending ending' : Ending}
    (h : Holds record source documents ending) (h' : Holds record source documents' ending') :
    documents = documents' ∧ ending = ending' := by
  have heq := (holds_iff.1 h).symm.trans (holds_iff.1 h')
  simpa using heq

/-- A load that succeeds leaves the store as the whole list does, if there is anything in it. -/
theorem accepted_whole_of_ok {summary : Summary} (hnonempty : ¬ Holds record source [] .closed)
    (hok : (loader.load memory Store.insertMany record collection name source store).result =
      .ok summary) :
    ∃ documents, Holds record source documents .closed ∧
      Accepted collection store documents
        (loader.load memory Store.insertMany record collection name source store).state := by
  obtain ⟨documents, hholds, hturn⟩ := accepted_of_ok hok
  have hpos : 0 < documents.length ⌈/⌉ loader.batchSize := by
    rw [Nat.pos_iff_ne_zero]
    intro hzero
    have hle := le_ceilDiv_mul loader.batchSize_pos documents.length
    rw [hzero, Nat.zero_mul] at hle
    have hnil : documents = [] := List.eq_nil_of_length_eq_zero (Nat.le_zero.1 hle)
    rw [hnil] at hholds
    exact hnonempty hholds
  have hslices :
      slices loader.batchSize documents (documents.length ⌈/⌉ loader.batchSize) ≠ [] := by
    apply List.ne_nil_of_length_pos
    rw [length_slices]
    exact hpos
  rw [acceptedInTurn_iff hslices, flatten_slices,
    List.take_of_length_le (le_ceilDiv_mul loader.batchSize_pos documents.length)] at hturn
  exact ⟨documents, hholds, hturn⟩

/-- A source is loaded with success exactly if there is room for a batch, the source is a list of
records, read without fault, and the store accepts all of them as one batch. The store is then as
this batch leaves it, its counters included. Batches of another size for which there is room neither
change the success nor the store. A batch for which there is no room ends the load in a panic, which
leaves the store as it is. -/
theorem load_iff_insertMany (hnonempty : ¬ Holds record source [] .closed) (loader : Loader)
    (memory : Memory) (collection : CollectionName) (name : String) (store : Store) :
    let loaded (loader : Loader) :=
      loader.load memory Store.insertMany record collection name source store
    ((∃ summary, (loaded loader).result = .ok summary) ↔
      loader.batchSize ≤ memory.capacity ∧
        ∃ documents inserted, Holds record source documents .closed ∧
          (store.insertMany collection documents).result = .ok inserted) ∧
    (∀ documents summary, Holds record source documents .closed →
      (loaded loader).result = .ok summary →
        (loaded loader).state = (store.insertMany collection documents).state) ∧
    (∀ other : Loader, loader.batchSize ≤ memory.capacity → other.batchSize ≤ memory.capacity →
      ((∃ summary, (loaded other).result = .ok summary) ↔
        ∃ summary, (loaded loader).result = .ok summary) ∧
      ((∃ summary, (loaded loader).result = .ok summary) →
        (loaded other).state = (loaded loader).state)) ∧
    (memory.capacity < loader.batchSize →
      (loaded loader).result = .error .capacityOverflow ∧ (loaded loader).state = store) := by
  intro loaded
  have hiff : ∀ loader, (∃ summary, (loaded loader).result = .ok summary) ↔
      loader.batchSize ≤ memory.capacity ∧
        ∃ documents inserted, Holds record source documents .closed ∧
          (store.insertMany collection documents).result = .ok inserted := by
    intro loader
    constructor
    · rintro ⟨summary, hok⟩
      obtain ⟨documents, hholds, ⟨inserted, hinserted⟩, -⟩ := accepted_whole_of_ok hnonempty hok
      exact ⟨Loader.fits_of_ok hok, documents, inserted, hholds, hinserted⟩
    · rintro ⟨hfits, documents, inserted, hholds, hinserted⟩
      exact ok_of_accepted hfits hholds ⟨⟨inserted, hinserted⟩, rfl⟩
  have hstate : ∀ loader documents summary, Holds record source documents .closed →
      (loaded loader).result = .ok summary →
        (loaded loader).state = (store.insertMany collection documents).state := by
    intro loader documents summary hholds hok
    obtain ⟨documents', hholds', haccepted⟩ := accepted_whole_of_ok hnonempty hok
    obtain ⟨rfl, -⟩ := holds_unique hholds hholds'
    exact haccepted.2.symm
  refine ⟨hiff loader, hstate loader, fun other hfits hfits' => ?_, fun hlarge => ?_⟩
  · have hsame : (∃ summary, (loaded other).result = .ok summary) ↔
        ∃ summary, (loaded loader).result = .ok summary := by
      rw [hiff other, hiff loader, and_iff_right hfits, and_iff_right hfits']
    refine ⟨hsame, ?_⟩
    rintro ⟨summary, hok⟩
    obtain ⟨summary', hok'⟩ := hsame.2 ⟨summary, hok⟩
    obtain ⟨documents, hholds, -⟩ := accepted_whole_of_ok hnonempty hok
    exact (hstate other documents summary' hholds hok').trans
      (hstate loader documents summary hholds hok).symm
  · have hload : loaded loader = _ := Loader.load_of_lt hlarge _ _ _ _ _ _
    rw [hload]
    exact ⟨rfl, rfl⟩

/-! ## Numbers across a cut -/

/-- The number five, and two records without a number: `[{"_id":5},{},{}]`. -/
def fromFive : Source :=
  ⟨[0x5B, 0x7B, 0x22, 0x5F, 0x69, 0x64, 0x22, 0x3A, 0x35, 0x7D, 0x2C, 0x7B, 0x7D, 0x2C, 0x7B, 0x7D,
    0x5D], none⟩

def fiveAndOn : List Json := [.obj [("_id", (DocumentId.int 5).toJson)], .obj [], .obj []]

/-- A store with one user. -/
def oneUser : Store := ((Store.new.start "db" "first").state.insertMany ⟨"users"⟩ [.obj []]).state

/-- The source is not an empty list. -/
theorem fromFive_holds :
    Holds untyped fromFive fiveAndOn .closed ∧ ¬ Holds untyped fromFive [] .closed := by
  have hholds : Holds untyped fromFive fiveAndOn .closed := holds_iff.2 (by rfl)
  exact ⟨hholds, fun h => absurd (holds_unique hholds h).1 (List.cons_ne_nil _ _)⟩

/-- The second record is numbered within the first pair, the third one behind it. -/
theorem fromFive_in_pairs :
    ¬ Holds untyped fromFive [] .closed ∧ Holds untyped fromFive fiveAndOn .closed ∧
    Partition.inPairs.batchSize ≤ Memory.standard.capacity ∧
    let loaded := Partition.inPairs.load .standard Store.insertMany untyped ⟨"users"⟩ "users.json"
      fromFive oneUser
    (∃ summary, loaded.result = .ok summary) ∧
    loaded.state = (oneUser.insertMany ⟨"users"⟩ fiveAndOn).state := by
  obtain ⟨hholds, hnonempty⟩ := fromFive_holds
  have hfits : Partition.inPairs.batchSize ≤ Memory.standard.capacity := by decide
  have hinserted : (oneUser.insertMany ⟨"users"⟩ fiveAndOn).result =
      .ok ⟨[.int 5, .int 6, .int 7], 3⟩ := by rfl
  obtain ⟨hiff, hstate, -⟩ :=
    load_iff_insertMany hnonempty Partition.inPairs .standard ⟨"users"⟩ "users.json" oneUser
  obtain ⟨summary, hok⟩ := hiff.2 ⟨hfits, fiveAndOn, _, hholds, hinserted⟩
  exact ⟨hnonempty, hholds, hfits, ⟨summary, hok⟩, hstate fiveAndOn summary hholds hok⟩

/-- The store accepts the records as one batch, and a load in batches of the greatest size fails. -/
theorem fromFive_all_at_once :
    ¬ Holds untyped fromFive [] .closed ∧ Holds untyped fromFive fiveAndOn .closed ∧
    (oneUser.insertMany ⟨"users"⟩ fiveAndOn).result = .ok ⟨[.int 5, .int 6, .int 7], 3⟩ ∧
    let loaded := allAtOnce.load .standard Store.insertMany untyped ⟨"users"⟩ "users.json" fromFive
      oneUser
    (¬ ∃ summary, loaded.result = .ok summary) ∧ loaded.state = oneUser := by
  obtain ⟨hholds, hnonempty⟩ := fromFive_holds
  refine ⟨hnonempty, hholds, by rfl, ?_⟩
  rw [Loader.load_of_lt (capacity_lt_allAtOnce .standard)]
  exact ⟨fun ⟨_, hok⟩ => (nomatch hok), rfl⟩

end DocStore.Proofs.Load.Whole
