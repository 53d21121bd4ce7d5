import DocStore.Proofs.Load.Whole

/-!
# Loads into stores of other sizes

Two stores hold the same if the collections of their sessions are the same, whatever the sizes of
their pages and the names of their sessions. What one of them accepts the other one accepts too, in
batches of any size that there is room for, and they hold the same again.
-/
namespace DocStore.Proofs.Load.Sizes

open Contents Whole
open Store.Batch Store.Parts

/-- Two stores are started and hold the same collections. -/
def Alike (store other : Store) : Prop :=
  ∃ session session', store.session = some session ∧ other.session = some session' ∧
    session.collections = session'.collections

variable {store other after : Store} {collection : CollectionName} {batch : List Json}

theorem Alike.accepted (h : Alike store other) (haccepted : Accepted collection store batch after) :
    ∃ after', Accepted collection other batch after' ∧ Alike after after' := by
  obtain ⟨inserted, hinserts⟩ := accepted_iff_exists.1 haccepted
  obtain ⟨session, staged, hvalid, hsession, hstage, -, rfl⟩ := inserts_iff.1 hinserts
  obtain ⟨_, session', hsame, hsession', hcollections⟩ := h
  obtain rfl := Option.some.inj (hsession.symm.trans hsame)
  have hheld : held session collection = held session' collection := by
    unfold held Session.collection?
    rw [hcollections]
  rw [hheld] at hstage
  refine ⟨_, accepted_iff_exists.2 ⟨_, inserts_iff.2
    ⟨session', staged, hvalid, hsession', hstage, rfl, rfl⟩⟩, _, _, rfl, rfl, ?_⟩
  unfold extended
  rw [hheld, hcollections]

variable {record : RecordReader} {source : Source} {name : String}
variable {loader loader' : Loader} {memory : Memory}

/-- A list without records is loaded without a call. -/
theorem load_of_empty (hholds : Holds record source [] .closed)
    (hfits : loader.batchSize ≤ memory.capacity) (collection : CollectionName) (name : String)
    (store : Store) :
    let loaded := loader.load memory Store.insertMany record collection name source store
    (∃ summary, loaded.result = .ok summary) ∧ loaded.state = store := by
  simp [Loader.load, Loader.run, Loader.begun_of_le hfits, holds_iff.1 hholds, Loader.pushAll,
    Loader.finish, Loader.flush, Loader.atStart]

/-- A load that succeeds on one store succeeds on the other one, in batches of any size that there
is room for. -/
theorem Alike.load {summary : Summary} (h : Alike store other)
    (hfits : loader'.batchSize ≤ memory.capacity)
    (hok : (loader.load memory Store.insertMany record collection name source store).result =
      .ok summary) :
    (∃ summary',
      (loader'.load memory Store.insertMany record collection name source other).result =
        .ok summary') ∧
    Alike (loader.load memory Store.insertMany record collection name source store).state
      (loader'.load memory Store.insertMany record collection name source other).state := by
  by_cases hempty : Holds record source [] .closed
  · obtain ⟨-, hstate⟩ := load_of_empty hempty (Loader.fits_of_ok hok) collection name store
    obtain ⟨hok', hstate'⟩ := load_of_empty hempty hfits collection name other
    refine ⟨hok', ?_⟩
    rw [hstate, hstate']
    exact h
  · obtain ⟨documents, hholds, haccepted⟩ := accepted_whole_of_ok hempty hok
    obtain ⟨after', haccepted', halike⟩ := h.accepted haccepted
    obtain ⟨summary', hok'⟩ : ∃ summary',
        (loader'.load memory Store.insertMany record collection name source other).result =
          .ok summary' := ok_of_accepted hfits hholds haccepted'
    obtain ⟨documents', hholds', haccepted''⟩ := accepted_whole_of_ok hempty hok'
    obtain ⟨rfl, -⟩ := holds_unique hholds hholds'
    rw [← haccepted'.unique haccepted'']
    exact ⟨⟨summary', hok'⟩, halike⟩

end DocStore.Proofs.Load.Sizes
