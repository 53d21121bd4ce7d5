import DocStore.Proofs.Store.Sessions
import DocStore.Proofs.Values.ByteOrder

/-!
# Listed collections

A collection is listed as soon as a batch was accepted into it, and it has documents as soon as one
of these batches was not empty. So the list is that of the collections with documents as long as no
collection was given empty batches only.
-/
namespace DocStore.Proofs.Store.Listing

open Batch Life Sessions
open Identity (guests guest)
open Staging (stage_entered)
open Text (utf8)
open Values.ByteOrder (utf8_lt_utf8_iff)

/-- The batch was accepted into the collection. -/
def Received (name : CollectionName) (batch : List Json) (since : List Event) : Prop :=
  ∃ inserted, Event.inserted name batch (.ok inserted) ∈ since

variable {since : List Event} {event : Event} {session : Session} {store : Store}
variable {name other : CollectionName} {batch more : List Json}

theorem received_concat_idle
    (hidle : ∀ name batch inserted, event ≠ .inserted name batch (.ok inserted)) :
    Received name batch (since ++ [event]) ↔ Received name batch since := by
  refine exists_congr fun inserted => ?_
  rw [List.mem_append, List.mem_singleton]
  exact or_iff_left (Ne.symm (hidle name batch inserted))

theorem received_concat_inserted {inserted : Inserted} :
    Received name batch (since ++ [.inserted other more (.ok inserted)]) ↔
      Received name batch since ∨ name = other ∧ batch = more := by
  constructor
  · rintro ⟨_, hmem⟩
    rcases List.mem_append.1 hmem with hold | hnew
    · exact .inl ⟨_, hold⟩
    · obtain ⟨hname, hbatch, -⟩ := Event.inserted.inj (List.mem_singleton.1 hnew)
      exact .inr ⟨hname, hbatch⟩
  · rintro (⟨_, hold⟩ | ⟨rfl, rfl⟩)
    · exact ⟨_, List.mem_append_left _ hold⟩
    · exact ⟨inserted, List.mem_append_right _ List.mem_cons_self⟩

/-- The collections of a session are those that received a batch, in the order of their names, and
those that received a document are not empty. -/
structure Lists (since : List Event) (session : Session) : Prop where
  sorted : Fields.Sorted session.collections
  listed : ∀ name, session.collection? name ≠ none ↔ ∃ batch, Received name batch since
  filled : ∀ name, session.documents name ≠ [] ↔ ∃ batch, Received name batch since ∧ batch ≠ []

theorem lists_opened (name label : String) (number : Nat) :
    Lists [] (opened name label number) := by
  have hnothing : ∀ other batch, ¬ Received other batch [] := fun _ _ ⟨_, hmem⟩ =>
    List.not_mem_nil hmem
  constructor
  · exact Fields.sorted_nil
  · intro other
    exact iff_of_false (not_not_intro rfl) fun ⟨batch, hreceived⟩ => hnothing other batch hreceived
  · intro other
    exact iff_of_false (not_not_intro rfl) fun ⟨batch, hreceived, _⟩ =>
      hnothing other batch hreceived

theorem Lists.idle (h : Lists since session)
    (hidle : ∀ name batch inserted, event ≠ .inserted name batch (.ok inserted)) :
    Lists (since ++ [event]) session := by
  constructor
  · exact h.sorted
  · simpa only [received_concat_idle hidle] using h.listed
  · simpa only [received_concat_idle hidle] using h.filled

/-- As many documents are staged as the batch has. -/
theorem staged_ne_nil_iff {stored : Collection} {staged : Staged}
    (hstage : stored.stage name batch = .ok staged) : staged.documents ≠ [] ↔ batch ≠ [] := by
  obtain ⟨entries, hall, hdocuments, -⟩ := stage_entered hstage
  rw [hdocuments, Ne, Ne, List.map_eq_nil_iff, ← List.length_eq_zero_iff,
    ← List.length_eq_zero_iff (l := batch), hall.length_eq]

/-- An accepted batch makes its own collection a listed one and adds documents unless it is empty.
All others stay. -/
theorem Lists.extended (h : Lists since session) {staged : Staged} {inserted : Inserted}
    (hstage : (held session other).stage other more = .ok staged) :
    Lists (since ++ [.inserted other more (.ok inserted)]) (extended session other staged) := by
  constructor
  · exact Fields.insert_sorted _ _ h.sorted
  · intro name
    simp only [received_concat_inserted]
    by_cases hname : name = other
    · subst hname
      refine iff_of_true ?_ ⟨more, .inr ⟨rfl, rfl⟩⟩
      rw [collection?_extended_self]
      exact Option.some_ne_none _
    · rw [collection?_extended_ne session staged hname, h.listed]
      simp [hname]
  · intro name
    simp only [received_concat_inserted]
    by_cases hname : name = other
    · subst hname
      have hdocuments : (extended session name staged).documents name ≠ [] ↔
          session.documents name ≠ [] ∨ staged.documents ≠ [] := by
        rw [documents_extended_self, Ne, List.append_eq_nil_iff, not_and_or]
      rw [hdocuments, h.filled, staged_ne_nil_iff hstage]
      constructor
      · rintro (⟨batch, hreceived, hbatch⟩ | hmore)
        · exact ⟨batch, .inl hreceived, hbatch⟩
        · exact ⟨more, .inr ⟨rfl, rfl⟩, hmore⟩
      · rintro ⟨batch, hreceived | ⟨-, rfl⟩, hbatch⟩
        · exact .inl ⟨batch, hreceived, hbatch⟩
        · exact .inr hbatch
    · rw [documents_extended_ne session staged hname, h.filled]
      simp [hname]

/-- What has happened since the last start is what the session lists and counts. -/
theorem lists_history (hstopped : store.session = none) {calls : List Call}
    (hrunning : Running (history store calls) since) :
    ∃ session, (after store calls).session = some session ∧ Lists since session := by
  have hstarted := (recorded_history hstopped calls).started_iff.2 ⟨since, hrunning⟩
  obtain ⟨session, hsession⟩ := Option.isSome_iff_exists.1 hstarted
  exact ⟨session, hsession, running_property lists_opened
    (fun _ _ _ hidle hlists => hlists.idle hidle)
    (fun _ _ _ _ _ hstage hlists => hlists.extended hstage) hstopped hrunning hsession⟩

/-! ## What a store lists and counts -/

theorem mem_collectionNames_iff (hsession : store.session = some session) :
    name ∈ store.collectionNames ↔ session.collection? name ≠ none := by
  rw [Store.collectionNames, hsession, Session.collection?, Ne, Fields.get?_eq_none_iff]
  constructor
  · intro hmem hnone
    obtain ⟨entry, hentry, rfl⟩ := List.mem_map.1 hmem
    exact hnone entry hentry rfl
  · intro hsome
    simp only [not_forall, not_not] at hsome
    obtain ⟨entry, hentry, hname⟩ := hsome
    exact List.mem_map.2 ⟨entry, hentry, congrArg CollectionName.mk hname⟩

theorem one_le_count_iff (hsession : store.session = some session) :
    1 ≤ store.count name ↔ session.documents name ≠ [] := by
  rw [Store.count, hsession]
  exact List.length_pos_iff

variable {calls : List Call}

theorem listed_iff (hstopped : store.session = none)
    (hrunning : Running (history store calls) since) :
    name ∈ (after store calls).collectionNames ↔ ∃ batch, Received name batch since := by
  obtain ⟨session, hsession, hlists⟩ := lists_history hstopped hrunning
  rw [mem_collectionNames_iff hsession]
  exact hlists.listed name

theorem counted_iff (hstopped : store.session = none)
    (hrunning : Running (history store calls) since) :
    1 ≤ (after store calls).count name ↔ ∃ batch, Received name batch since ∧ batch ≠ [] := by
  obtain ⟨session, hsession, hlists⟩ := lists_history hstopped hrunning
  rw [one_le_count_iff hsession]
  exact hlists.filled name

/-- After a start, the list is that of the collections with documents as long as no collection was
given empty batches only. -/
theorem listed_iff_counted (hstopped : store.session = none)
    (hrunning : Running (history store calls) since) :
    (∀ name, name ∈ (after store calls).collectionNames ↔ 1 ≤ (after store calls).count name) ↔
      ∀ name, Received name [] since → ∃ batch, Received name batch since ∧ batch ≠ [] := by
  simp only [listed_iff hstopped hrunning, counted_iff hstopped hrunning]
  refine forall_congr' fun name => ?_
  constructor
  · exact fun hiff hempty => hiff.1 ⟨[], hempty⟩
  · intro hfilled
    constructor
    · rintro ⟨batch, hreceived⟩
      by_cases hbatch : batch = []
      · subst hbatch
        exact hfilled hreceived
      · exact ⟨batch, hreceived, hbatch⟩
    · exact fun ⟨batch, hreceived, _⟩ => ⟨batch, hreceived⟩

/-- Whatever is listed or counted came in since the last start. -/
theorem running_of_held (hstopped : store.session = none)
    (hheld : name ∈ (after store calls).collectionNames ∨ 1 ≤ (after store calls).count name) :
    ∃ since, Running (history store calls) since := by
  rw [← (recorded_history hstopped calls).started_iff, Store.isStarted]
  rw [Store.collectionNames, Store.count] at hheld
  cases hsession : (after store calls).session with
  | some session => rfl
  | none => simp [hsession] at hheld

theorem collectionNames_pairwise (hstopped : store.session = none) (calls : List Call) :
    (after store calls).collectionNames.Pairwise
      (fun first second => utf8 first.text < utf8 second.text) := by
  cases hsession : (after store calls).session with
  | none =>
    rw [Store.collectionNames, hsession]
    exact .nil
  | some session =>
    have hstarted : (after store calls).isStarted = true := by rw [Store.isStarted, hsession]; rfl
    obtain ⟨since, hrunning⟩ := (recorded_history hstopped calls).started_iff.1 hstarted
    obtain ⟨_, hsession', hlists⟩ := lists_history hstopped hrunning
    obtain rfl := Option.some.inj (hsession.symm.trans hsession')
    rw [Store.collectionNames, hsession]
    exact List.pairwise_map.2 (hlists.sorted.imp utf8_lt_utf8_iff.2)

/-- After any calls, the listed names rise strictly in the order of their bytes. They are the names
of the collections that a batch was accepted into since the last start, and a collection has
documents if one of its batches was not empty. The list is therefore that of the collections with
documents exactly if every collection that was given an empty batch was given another one too. -/
theorem listed_iff_filled {pageSize : Nat} (hpageSize : 0 < pageSize) (calls : List Call) :
    let new : Store := ⟨none, 0, pageSize, hpageSize⟩
    let store := after new calls
    let events := history new calls
    store.collectionNames.Pairwise (fun first second => utf8 first.text < utf8 second.text) ∧
    (∀ name, name ∈ store.collectionNames ↔
      ∃ since, Running events since ∧ ∃ batch, Received name batch since) ∧
    (∀ name, 1 ≤ store.count name ↔
      ∃ since, Running events since ∧ ∃ batch, Received name batch since ∧ batch ≠ []) ∧
    ((∀ name, name ∈ store.collectionNames ↔ 1 ≤ store.count name) ↔
      ∀ since, Running events since → ∀ name, Received name [] since →
        ∃ batch, Received name batch since ∧ batch ≠ []) := by
  intro new store events
  have hstopped : new.session = none := rfl
  refine ⟨collectionNames_pairwise hstopped calls, fun name => ?_, fun name => ?_, ?_⟩
  · constructor
    · intro hmem
      obtain ⟨since, hrunning⟩ := running_of_held hstopped (.inl hmem)
      exact ⟨since, hrunning, (listed_iff hstopped hrunning).1 hmem⟩
    · rintro ⟨since, hrunning, hreceived⟩
      exact (listed_iff hstopped hrunning).2 hreceived
  · constructor
    · intro hcount
      obtain ⟨since, hrunning⟩ := running_of_held hstopped (.inr hcount)
      exact ⟨since, hrunning, (counted_iff hstopped hrunning).1 hcount⟩
    · rintro ⟨since, hrunning, hreceived⟩
      exact (counted_iff hstopped hrunning).2 hreceived
  · constructor
    · intro hall since hrunning
      exact (listed_iff_counted hstopped hrunning).1 hall
    · intro hfilled name
      by_cases hstarted : ∃ since, Running events since
      · obtain ⟨since, hrunning⟩ := hstarted
        exact (listed_iff_counted hstopped hrunning).2 (hfilled since hrunning) name
      · exact iff_of_false (fun hmem => hstarted (running_of_held hstopped (.inl hmem)))
          fun hcount => hstarted (running_of_held hstopped (.inr hcount))

/-! ## Guests who are expected -/

/-- The first batch is empty, and a guest comes in the second one. -/
def lateGuest : List Call :=
  [.start "db" "first", .insertMany guests [], .insertMany guests [.obj []]]

theorem late_guest_listed :
    let new : Store := ⟨none, 0, 2, Nat.two_pos⟩
    let store := after new lateGuest
    0 < 2 ∧ store.collectionNames = [guests] ∧
    ∀ name, name ∈ store.collectionNames ↔ 1 ≤ store.count name := by
  intro new store
  refine ⟨Nat.two_pos, rfl, ?_⟩
  obtain ⟨-, -, -, hiff⟩ := listed_iff_filled Nat.two_pos lateGuest
  refine hiff.2 fun since hrunning name hempty => ?_
  -- The start is the first event, so both batches are behind it.
  obtain ⟨before, _, _, hevents, -⟩ := hrunning
  have hsince : since = [.inserted guests [] (.ok ⟨[], 0⟩),
      .inserted guests [.obj []] (.ok ⟨[.int 1], 1⟩)] := by
    rcases before with _ | ⟨first, _ | ⟨second, _ | ⟨third, rest⟩⟩⟩
    · exact (List.cons.inj hevents).2.symm
    · cases (List.cons.inj (List.cons.inj hevents).2).1
    · cases (List.cons.inj (List.cons.inj (List.cons.inj hevents).2).2).1
    · cases rest <;> cases (List.cons.inj (List.cons.inj (List.cons.inj hevents).2).2).2
  subst hsince
  obtain ⟨inserted, hmem⟩ := hempty
  obtain ⟨rfl, -⟩ : name = guests ∧ inserted = ⟨[], 0⟩ := by simpa using hmem
  exact ⟨[.obj []], ⟨_, List.mem_cons_of_mem _ List.mem_cons_self⟩, List.cons_ne_nil _ _⟩

/-- An empty batch is accepted, and its collection is listed although there is nothing in it. -/
theorem no_guest_listed :
    let new : Store := ⟨none, 0, 2, Nat.two_pos⟩
    let store := after new [.start "db" "first", .insertMany guests []]
    history new [.start "db" "first", .insertMany guests []] =
      [.started "db" "first" (.ok ()), .inserted guests [] (.ok ⟨[], 0⟩)] ∧
    store.collectionNames = [guests] ∧ store.count guests = 0 ∧
    ¬ ∀ name, name ∈ store.collectionNames ↔ 1 ≤ store.count name := by
  intro new store
  refine ⟨rfl, rfl, rfl, fun hall => ?_⟩
  have hcount : 1 ≤ store.count guests := (hall guests).1 List.mem_cons_self
  exact absurd hcount (Nat.not_succ_le_zero 0)

end DocStore.Proofs.Store.Listing
