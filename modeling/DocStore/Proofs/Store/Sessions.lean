import DocStore.Proofs.Store.Identity
import DocStore.Proofs.Store.Paging
import Mathlib.Data.List.Induction

/-!
# The life of a store

A run is a list of calls, and each call has its answer. Whether a store is started, and what is in
it, is read off the answers: it holds what was accepted since the last start that succeeded, and
nothing once it is stopped. What is behind a stop has no effect: sessions differ by their numbers
only, and no answer depends on those.
-/
namespace DocStore.Proofs.Store.Sessions

open Batch Draining Life Paging Staging
open Identity (guests guest)

/-- A call that changes a store or reads it. -/
inductive Call where
  | start (name label : String)
  | stop
  | insertMany (name : CollectionName) (batch : List Json)
  | aggregate (name : CollectionName) (pipeline : Pipeline)

/-- A call with its answer. -/
inductive Event where
  | started (name label : String) (result : Except Error Unit)
  | stopped
  | inserted (name : CollectionName) (batch : List Json) (result : Except Error Inserted)
  | aggregated (name : CollectionName) (pipeline : Pipeline)
      (result : Except Error (List (Except Error Json)))

/-- What the cursor on a pipeline answers until it ends. -/
def drained (store : Store) (name : CollectionName) (pipeline : Pipeline) :
    Except Error (List (Except Error Json)) :=
  (store.aggregate name pipeline).result.map fun cursor => (cursor.drain store).2.1

def perform (store : Store) : Call → Event × Store
  | .start name label =>
    (.started name label (store.start name label).result, (store.start name label).state)
  | .stop => (.stopped, store.stop.state)
  | .insertMany name batch =>
    (.inserted name batch (store.insertMany name batch).result,
      (store.insertMany name batch).state)
  | .aggregate name pipeline => (.aggregated name pipeline (drained store name pipeline), store)

/-- The store after a run. -/
def after (store : Store) (calls : List Call) : Store :=
  calls.foldl (fun store call => (perform store call).2) store

/-- What happens in a run. -/
def history (store : Store) : List Call → List Event
  | [] => []
  | call :: rest => (perform store call).1 :: history (perform store call).2 rest

variable {store other : Store} {call : Call} {calls : List Call} {events since : List Event}
variable {name : CollectionName} {pipeline : Pipeline}

theorem after_concat (store : Store) (calls : List Call) (call : Call) :
    after store (calls ++ [call]) = (perform (after store calls) call).2 := by
  simp [after]

theorem history_concat (store : Store) (calls : List Call) (call : Call) :
    history store (calls ++ [call]) =
      history store calls ++ [(perform (after store calls) call).1] := by
  induction calls generalizing store with
  | nil => rfl
  | cons first rest ih =>
    rw [List.cons_append, history, history, ih, List.cons_append]
    rfl

/-! ## What single calls answer -/

theorem start_eq_ok_iff {name label : String} :
    (store.start name label).result = .ok () ↔
      store.isStarted = false ∧ Text.allBlank name = false := by
  cases hsession : store.session with
  | some session => simp [Store.start, Store.isStarted, hsession]
  | none =>
    cases hblank : Text.allBlank name with
    | true => simp [Store.start, Store.isStarted, hsession, hblank]
    | false => simp [Store.start, Store.isStarted, hsession, hblank]

theorem start_refused {name label : String} (h : (store.start name label).result ≠ .ok ()) :
    (store.start name label).state = store := by
  cases hsession : store.session with
  | some session => simp [Store.start, hsession]
  | none =>
    cases hblank : Text.allBlank name with
    | true => simp [Store.start, hsession, hblank]
    | false => simp [Store.start, hsession, hblank] at h

/-- What comes out depends on the documents of the session, neither on its number nor on the size
of the pages. -/
theorem drained_eq (store : Store) (name : CollectionName) (pipeline : Pipeline) :
    drained store name pipeline =
      if name.Valid then
        match DocStore.Pipeline.ofJson pipeline.toJson, store.session with
        | .error fault, _ => .error (.queryFailure fault)
        | .ok _, none => .error .notStarted
        | .ok written, some session =>
          .ok (((session.documents name).filterMap (written.apply session.documents)).map .ok)
      else .error (.queryFailure (.invalidCollection name)) := by
  by_cases hvalid : name.Valid
  · cases hread : DocStore.Pipeline.ofJson pipeline.toJson with
    | error fault => simp [drained, Store.aggregate, hvalid, hread, Except.map]
    | ok written =>
      cases hsession : store.session with
      | none => simp [drained, Store.aggregate, hvalid, hread, hsession, Except.map]
      | some session =>
        have hlive : Live store session
            ⟨some session.number, name, written, 0, store.pageSize, store.pageSize_pos, []⟩ :=
          ⟨hsession, .inr rfl⟩
        simp [drained, Store.aggregate, hvalid, hread, hsession, Except.map, drain_eq hlive,
          remaining, unread]
  · simp [drained, Store.aggregate, hvalid, Except.map]

/-- The pipeline without conditions and lookups. -/
def everything : Pipeline := ⟨[], []⟩

theorem drained_everything {session : Session} (hsession : store.session = some session)
    (hvalid : name.Valid) :
    drained store name everything = .ok ((session.documents name).map .ok) := by
  have hread : DocStore.Pipeline.ofJson everything.toJson = .ok everything := by rfl
  have happly : everything.apply session.documents = some := by rfl
  rw [drained_eq, if_pos hvalid, hread, hsession]
  simp only [happly, List.filterMap_some]

/-- Without a session every insert is refused. -/
theorem insertMany_stopped (hstopped : store.session = none) (name : CollectionName)
    (batch : List Json) :
    (∃ error, (store.insertMany name batch).result = .error error) ∧
      (store.insertMany name batch).state = store := by
  rcases insertMany_cases store name batch with
    ⟨error, hresult, hstate⟩ | ⟨session, -, -, hsession, -⟩
  · exact ⟨⟨error, hresult⟩, hstate⟩
  · rw [hstopped] at hsession
    cases hsession

theorem aggregate_stopped (hstopped : store.session = none) (name : CollectionName)
    (pipeline : Pipeline) : ∃ error, (store.aggregate name pipeline).result = .error error := by
  cases hresult : (store.aggregate name pipeline).result with
  | error error => exact ⟨error, rfl⟩
  | ok cursor =>
    obtain ⟨session, hsession, -⟩ := aggregate_eq_ok hresult
    rw [hstopped] at hsession
    cases hsession

/-! ## What was accepted since the last start -/

/-- The last start that succeeded is followed by `since`, and there is no stop in it. -/
def Running (events since : List Event) : Prop :=
  ∃ before name label, events = before ++ .started name label (.ok ()) :: since ∧
    Event.stopped ∉ since

/-- The documents that an event adds to a collection, with the identifiers of the answer. -/
def acceptedBy (name : CollectionName) : Event → List (Json × DocumentId)
  | .inserted other batch (.ok inserted) => if other = name then batch.zip inserted.ids else []
  | _ => []

def accepted (name : CollectionName) (events : List Event) : List (Json × DocumentId) :=
  events.flatMap (acceptedBy name)

/-- These documents are the given ones, in order and each under its identifier. -/
def AllEntered (given : List (Json × DocumentId)) (documents : List Json) : Prop :=
  List.Forall₂ (fun given document => Entered given.1 given.2 document) given documents

/-- One more event is the start, or it is behind the start and no stop. -/
theorem running_concat_iff {event : Event} :
    Running (events ++ [event]) since ↔
      (since = [] ∧ ∃ name label, event = .started name label (.ok ())) ∨
      (event ≠ .stopped ∧ ∃ earlier, Running events earlier ∧ since = earlier ++ [event]) := by
  constructor
  · rintro ⟨before, name, label, heq, hstop⟩
    rcases List.eq_nil_or_concat since with rfl | ⟨earlier, last, rfl⟩
    · obtain ⟨-, hevent⟩ := List.append_inj' heq rfl
      exact .inl ⟨rfl, name, label, List.singleton_inj.1 hevent⟩
    · rw [List.concat_eq_append] at heq hstop ⊢
      rw [← List.cons_append, ← List.append_assoc] at heq
      obtain ⟨hevents, hevent⟩ := List.append_inj' heq rfl
      obtain rfl := List.singleton_inj.1 hevent
      rw [List.mem_append, not_or, List.mem_singleton] at hstop
      exact .inr ⟨Ne.symm hstop.2, earlier, ⟨before, name, label, hevents, hstop.1⟩, rfl⟩
  · rintro (⟨rfl, name, label, rfl⟩ | ⟨hevent, earlier, ⟨before, name, label, rfl, hstop⟩, rfl⟩)
    · exact ⟨events, name, label, rfl, List.not_mem_nil⟩
    · refine ⟨before, name, label, by simp, ?_⟩
      rw [List.mem_append, not_or, List.mem_singleton]
      exact ⟨hstop, Ne.symm hevent⟩

/-- The session of a store agrees with what happened: there is one while a start is not followed by
a stop, and it holds what was accepted since. -/
structure Recorded (events : List Event) (store : Store) : Prop where
  started_iff : store.isStarted = true ↔ ∃ since, Running events since
  last_start : ∀ since, Running events since →
    ∀ name label, Event.started name label (.ok ()) ∉ since
  entered : ∀ session, store.session = some session → ∀ since, Running events since → ∀ name,
    AllEntered (accepted name since) (session.documents name)

variable {event : Event} {later : Store}

theorem recorded_nil (hstopped : store.session = none) : Recorded [] store := by
  have hnone : ∀ since, ¬ Running [] since := by
    rintro since ⟨before, name, label, heq, -⟩
    cases before <;> cases heq
  constructor
  · simp [Store.isStarted, hstopped, hnone]
  · exact fun since hrunning => absurd hrunning (hnone since)
  · exact fun _ _ since hrunning => absurd hrunning (hnone since)

/-- An event that neither opens a session nor ends one comes behind those since the last start, and
the documents that it adds come behind the others. -/
theorem Recorded.append (h : Recorded events store) (hstop : event ≠ .stopped)
    (hstart : ∀ name label, event ≠ .started name label (.ok ()))
    (hstarted : later.isStarted = store.isStarted)
    (hadded : ∀ session', later.session = some session' →
      ∃ session, store.session = some session ∧ ∀ name, ∃ more,
        AllEntered (acceptedBy name event) more ∧
        session'.documents name = session.documents name ++ more) :
    Recorded (events ++ [event]) later := by
  have hrunning : ∀ since, Running (events ++ [event]) since ↔
      ∃ earlier, Running events earlier ∧ since = earlier ++ [event] := by
    intro since
    rw [running_concat_iff]
    constructor
    · rintro (⟨-, name, label, heq⟩ | ⟨-, hearlier⟩)
      · exact absurd heq (hstart name label)
      · exact hearlier
    · exact fun hearlier => .inr ⟨hstop, hearlier⟩
  constructor
  · rw [hstarted, h.started_iff]
    constructor
    · rintro ⟨earlier, hearlier⟩
      exact ⟨_, (hrunning _).2 ⟨earlier, hearlier, rfl⟩⟩
    · rintro ⟨since, hsince⟩
      obtain ⟨earlier, hearlier, -⟩ := (hrunning since).1 hsince
      exact ⟨earlier, hearlier⟩
  · intro since hsince name label hmem
    obtain ⟨earlier, hearlier, rfl⟩ := (hrunning since).1 hsince
    rcases List.mem_append.1 hmem with hold | hnew
    · exact h.last_start earlier hearlier name label hold
    · exact hstart name label (List.mem_singleton.1 hnew).symm
  · intro session' hsession' since hsince name
    obtain ⟨earlier, hearlier, rfl⟩ := (hrunning since).1 hsince
    obtain ⟨session, hsession, hmore⟩ := hadded session' hsession'
    obtain ⟨more, hentered, hdocuments⟩ := hmore name
    rw [accepted, List.flatMap_append, List.flatMap_singleton, hdocuments]
    exact List.rel_append (h.entered session hsession earlier hearlier name) hentered

theorem Recorded.append_idle (h : Recorded events store) (hstop : event ≠ .stopped)
    (hstart : ∀ name label, event ≠ .started name label (.ok ()))
    (hidle : ∀ name, acceptedBy name event = []) : Recorded (events ++ [event]) store := by
  refine h.append hstop hstart rfl fun session hsession => ⟨session, hsession, fun name => ?_⟩
  rw [hidle]
  exact ⟨[], .nil, (List.append_nil _).symm⟩

theorem Recorded.start (h : Recorded events store) (name label : String) :
    Recorded (events ++ [(perform store (.start name label)).1])
      (perform store (.start name label)).2 := by
  cases hresult : (store.start name label).result with
  | error error =>
    have hrefused : (store.start name label).result ≠ .ok () := by simp [hresult]
    rw [perform, start_refused hrefused, hresult]
    exact h.append_idle nofun nofun fun _ => rfl
  | ok _ =>
    have hstopped : ∀ since, ¬ Running events since := by
      have hfalse := (start_eq_ok_iff.1 hresult).1
      intro since hsince
      rw [h.started_iff.2 ⟨since, hsince⟩] at hfalse
      cases hfalse
    have hrunning : ∀ since,
        Running (events ++ [.started name label (.ok ())]) since ↔ since = [] := by
      intro since
      rw [running_concat_iff]
      constructor
      · rintro (⟨hnil, -⟩ | ⟨-, earlier, hearlier, -⟩)
        · exact hnil
        · exact absurd hearlier (hstopped earlier)
      · exact fun hnil => .inl ⟨hnil, name, label, rfl⟩
    have hsession := start_ok hresult
    rw [perform, hresult]
    constructor
    · rw [Store.isStarted, hsession]
      exact iff_of_true rfl ⟨[], (hrunning []).2 rfl⟩
    · intro since hsince other label' hmem
      rw [(hrunning since).1 hsince] at hmem
      cases hmem
    · intro session hopened since hsince other
      rw [hsession] at hopened
      obtain rfl := Option.some.inj hopened
      rw [(hrunning since).1 hsince]
      exact .nil

theorem recorded_stop (events : List Event) (store : Store) :
    Recorded (events ++ [.stopped]) store.stop.state := by
  have hrunning : ∀ since, ¬ Running (events ++ [.stopped]) since := by
    intro since hsince
    rcases running_concat_iff.1 hsince with ⟨-, name, label, heq⟩ | ⟨hne, -⟩
    · cases heq
    · exact hne rfl
  constructor
  · simp [Store.isStarted, Store.stop, hrunning]
  · exact fun since hsince => absurd hsince (hrunning since)
  · exact fun _ _ since hsince => absurd hsince (hrunning since)

/-- The documents of a batch, side by side with the identifiers of the answer. -/
theorem allEntered_zip {batch : List Json} {entries : List (DocumentId × Json)}
    (h : List.Forall₂ (fun given entry => Entered given entry.1 entry.2) batch entries) :
    AllEntered (batch.zip (entries.map (·.1))) (entries.map (·.2)) := by
  induction h with
  | nil => exact .nil
  | cons hfirst _ ih => exact .cons hfirst ih

theorem Recorded.insertMany (h : Recorded events store) (name : CollectionName)
    (batch : List Json) :
    Recorded (events ++ [(perform store (.insertMany name batch)).1])
      (perform store (.insertMany name batch)).2 := by
  rcases insertMany_cases store name batch with
    ⟨error, hresult, hstate⟩ | ⟨session, staged, -, hsession, hstage, hresult, hstate⟩
  · rw [perform, hresult, hstate]
    exact h.append_idle nofun nofun fun _ => rfl
  · rw [perform, hresult, hstate]
    refine h.append nofun nofun (by simp [Store.isStarted, hsession]) ?_
    intro session' hsession'
    obtain rfl := Option.some.inj hsession'
    refine ⟨session, hsession, fun other => ?_⟩
    by_cases hother : other = name
    · subst hother
      obtain ⟨entries, hall, hdocuments, hids⟩ := stage_entered hstage
      refine ⟨staged.documents, ?_, documents_extended_self session other staged⟩
      rw [acceptedBy, if_pos rfl, hdocuments, hids]
      exact allEntered_zip hall
    · refine ⟨[], ?_, ?_⟩
      · rw [acceptedBy, if_neg (Ne.symm hother)]
        exact .nil
      · rw [documents_extended_ne session staged hother, List.append_nil]

/-- One call keeps the record. -/
theorem Recorded.step (h : Recorded events store) (call : Call) :
    Recorded (events ++ [(perform store call).1]) (perform store call).2 := by
  cases call with
  | start name label => exact h.start name label
  | stop => exact recorded_stop events store
  | insertMany name batch => exact h.insertMany name batch
  | aggregate name pipeline => exact h.append_idle nofun nofun fun _ => rfl

theorem recorded_history (hstopped : store.session = none) (calls : List Call) :
    Recorded (history store calls) (after store calls) := by
  induction calls using List.reverseRecOn with
  | nil => exact recorded_nil hstopped
  | append_singleton calls call ih =>
    rw [history_concat, after_concat]
    exact ih.step call

/-- The induction over a run, for a property of what has happened since the last start and of the
session that came of it. -/
theorem running_property {P : List Event → Session → Prop}
    (hopened : ∀ name label number, P [] (opened name label number))
    (hidle : ∀ since session event,
      (∀ name batch inserted, event ≠ .inserted name batch (.ok inserted)) →
      P since session → P (since ++ [event]) session)
    (hstage : ∀ since session name batch staged,
      (held session name).stage name batch = .ok staged → P since session →
      P (since ++ [.inserted name batch (.ok ⟨staged.ids, staged.ids.length⟩)])
        (extended session name staged))
    (hstopped : store.session = none) {session : Session}
    (hrunning : Running (history store calls) since)
    (hsession : (after store calls).session = some session) : P since session := by
  induction calls using List.reverseRecOn generalizing since session with
  | nil =>
    obtain ⟨before, _, _, heq, -⟩ := hrunning
    cases before <;> cases heq
  | append_singleton calls call ih =>
    rw [history_concat] at hrunning
    rw [after_concat] at hsession
    rcases running_concat_iff.1 hrunning with
      ⟨rfl, other, label, hevent⟩ | ⟨hcontinues, earlier, hearlier, rfl⟩
    · cases call with
      | start _ _ =>
        obtain ⟨-, -, hresult⟩ := Event.started.inj hevent
        rw [perform, start_ok hresult] at hsession
        obtain rfl := Option.some.inj hsession
        exact hopened _ _ _
      | stop | insertMany | aggregate => cases hevent
    · have hstarted := (recorded_history hstopped calls).started_iff.2 ⟨earlier, hearlier⟩
      cases call with
      | stop => exact absurd rfl hcontinues
      | start other label =>
        rcases start_cases (after store calls) other label with hstate | ⟨hnone, -⟩
        · rw [perform, hstate] at hsession
          exact hidle _ _ _ nofun (ih hearlier hsession)
        · rw [Store.isStarted, hnone] at hstarted
          cases hstarted
      | aggregate => exact hidle _ _ _ nofun (ih hearlier hsession)
      | insertMany other batch =>
        rcases insertMany_cases (after store calls) other batch with
          ⟨error, hresult, hstate⟩ | ⟨before, staged, -, hbefore, hstage', hresult, hstate⟩
        · rw [perform, hstate] at hsession
          rw [perform, hresult]
          exact hidle _ _ _ nofun (ih hearlier hsession)
        · rw [perform, hstate] at hsession
          obtain rfl := Option.some.inj hsession
          rw [perform, hresult]
          exact hstage _ _ _ _ _ hstage' (ih hearlier hbefore)

theorem acceptedBy_of_idle
    (hidle : ∀ name batch inserted, event ≠ .inserted name batch (.ok inserted))
    (name : CollectionName) : acceptedBy name event = [] := by
  cases event with
  | inserted other batch result =>
    cases result with
    | error => rfl
    | ok inserted => exact absurd rfl (hidle other batch inserted)
  | started | stopped | aggregated => rfl

/-- The same for a property of what was accepted into a collection and of the collection. -/
theorem accepted_property {P : List (Json × DocumentId) → Collection → Prop} (hempty : P [] .empty)
    (hstage : ∀ given stored name batch staged, stored.stage name batch = .ok staged →
      P given stored → P (given ++ batch.zip staged.ids) (stored.append staged))
    (hstopped : store.session = none) {session : Session}
    (hrunning : Running (history store calls) since)
    (hsession : (after store calls).session = some session) (name : CollectionName) :
    P (accepted name since) (held session name) := by
  refine running_property (P := fun since session => P (accepted name since) (held session name))
    ?_ ?_ ?_ hstopped hrunning hsession
  · exact fun _ _ _ => hempty
  · intro since session event hidle hheld
    rwa [accepted, List.flatMap_append, List.flatMap_singleton, acceptedBy_of_idle hidle,
      List.append_nil]
  · intro since session other batch staged hstage' hheld
    rw [accepted, List.flatMap_append, List.flatMap_singleton, acceptedBy]
    by_cases hother : other = name
    · subst hother
      rw [if_pos rfl, held_extended_self]
      exact hstage _ _ _ _ _ hstage' hheld
    · rw [if_neg hother, List.append_nil, held_extended_ne session staged (Ne.symm hother)]
      exact hheld

/-! ## What is behind a stop -/

/-- The stores run the same session or none; only its number may differ. -/
def Twin (store other : Store) : Prop :=
  ∃ number, store.session = other.session.map fun session => { session with number }

theorem twin_of_stopped (hstore : store.session = none) (hother : other.session = none) :
    Twin store other := ⟨0, by rw [hstore, hother, Option.map_none]⟩

theorem Twin.start (h : Twin store other) (name label : String) :
    (store.start name label).result = (other.start name label).result ∧
      Twin (store.start name label).state (other.start name label).state := by
  obtain ⟨number, hsession⟩ := h
  cases hother : other.session with
  | some session =>
    rw [hother, Option.map_some] at hsession
    have hsame : (store.start name label).state = store ∧
        (other.start name label).state = other := by
      simp [Store.start, hsession, hother]
    rw [hsame.1, hsame.2]
    refine ⟨by simp [Store.start, hsession, hother], number, ?_⟩
    rw [hsession, hother, Option.map_some]
  | none =>
    rw [hother, Option.map_none] at hsession
    cases hblank : Text.allBlank name with
    | true =>
      refine ⟨by simp [Store.start, hsession, hother, hblank], ?_⟩
      simpa [Store.start, hsession, hother, hblank] using twin_of_stopped hsession hother
    | false =>
      refine ⟨by simp [Store.start, hsession, hother, hblank], store.opened + 1, ?_⟩
      simp [Store.start, hsession, hother, hblank]

theorem Twin.insertMany (h : Twin store other) (name : CollectionName) (batch : List Json) :
    (store.insertMany name batch).result = (other.insertMany name batch).result ∧
      Twin (store.insertMany name batch).state (other.insertMany name batch).state := by
  obtain ⟨number, hsession⟩ := h
  by_cases hvalid : name.Valid
  · cases hother : other.session with
    | none =>
      rw [hother, Option.map_none] at hsession
      refine ⟨by simp [Store.insertMany, hvalid, hsession, hother], ?_⟩
      simpa [Store.insertMany, hvalid, hsession, hother] using twin_of_stopped hsession hother
    | some session =>
      rw [hother, Option.map_some] at hsession
      have hheld : (session.collection? name).getD .empty = held session name := rfl
      have hsame : ({ session with number } : Session).collection? name =
        session.collection? name := rfl
      refine ⟨?_, number, ?_⟩
      · cases hstage : (held session name).stage name batch <;>
          simp [Store.insertMany, hvalid, hsession, hother, hsame, hheld, hstage]
      · cases hstage : (held session name).stage name batch <;>
          simp [Store.insertMany, hvalid, hsession, hother, hsame, hheld, hstage]
  · refine ⟨by simp [Store.insertMany, hvalid], ?_⟩
    simpa [Store.insertMany, hvalid] using ⟨number, hsession⟩

theorem Twin.drained_eq (h : Twin store other) (name : CollectionName) (pipeline : Pipeline) :
    drained store name pipeline = drained other name pipeline := by
  obtain ⟨number, hsession⟩ := h
  rw [Sessions.drained_eq, Sessions.drained_eq, hsession]
  cases other.session with
  | none => rfl
  | some session =>
    rw [Option.map_some]
    cases DocStore.Pipeline.ofJson pipeline.toJson <;> rfl

theorem Twin.collectionNames_eq (h : Twin store other) :
    store.collectionNames = other.collectionNames := by
  obtain ⟨number, hsession⟩ := h
  rw [Store.collectionNames, Store.collectionNames, hsession]
  cases other.session <;> rfl

theorem Twin.count_eq (h : Twin store other) (name : CollectionName) :
    store.count name = other.count name := by
  obtain ⟨number, hsession⟩ := h
  rw [Store.count, Store.count, hsession]
  cases other.session <;> rfl

/-- Calls on such stores get the same answers and leave such stores. -/
theorem Twin.perform (h : Twin store other) (call : Call) :
    (perform store call).1 = (perform other call).1 ∧
      Twin (perform store call).2 (perform other call).2 := by
  cases call with
  | start name label =>
    obtain ⟨hresult, htwin⟩ := h.start name label
    exact ⟨congrArg (Event.started name label) hresult, htwin⟩
  | stop => exact ⟨rfl, twin_of_stopped rfl rfl⟩
  | insertMany name batch =>
    obtain ⟨hresult, htwin⟩ := h.insertMany name batch
    exact ⟨congrArg (Event.inserted name batch) hresult, htwin⟩
  | aggregate name pipeline =>
    exact ⟨congrArg (Event.aggregated name pipeline) (h.drained_eq name pipeline), h⟩

theorem Twin.run (h : Twin store other) (calls : List Call) :
    history store calls = history other calls ∧ Twin (after store calls) (after other calls) := by
  induction calls generalizing store other with
  | nil => exact ⟨rfl, h⟩
  | cons call rest ih =>
    obtain ⟨hevent, htwin⟩ := h.perform call
    obtain ⟨hhistory, hafter⟩ := ih htwin
    rw [history, history, hevent, hhistory]
    exact ⟨rfl, hafter⟩

/-! ## The life of a store -/

/-- A store is started exactly if there was no session and the name is not blank, and is as it was
otherwise; stopping twice is stopping once. After any run there is a session exactly if a start that
succeeded is not followed by a stop. Then a collection consists of what was accepted into it since
that start. Without a session there is nothing in the store and every insert and every pipeline is
refused; whatever comes next is answered as by a new store. -/
theorem life_of_store {pageSize : Nat} (hpageSize : 0 < pageSize) (calls : List Call) :
    let new : Store := ⟨none, 0, pageSize, hpageSize⟩
    let store := after new calls
    let events := history new calls
    (∀ name label,
      ((store.start name label).result = .ok () ↔
        store.isStarted = false ∧ Text.allBlank name = false) ∧
      ((store.start name label).result ≠ .ok () → (store.start name label).state = store)) ∧
    store.stop.state.isStarted = false ∧ store.stop.state.stop.state = store.stop.state ∧
    (store.isStarted = true ↔ ∃ since, Running events since) ∧
    (∀ since, Running events since →
      (∀ name label, Event.started name label (.ok ()) ∉ since) ∧
      ∀ name, ∃ documents, AllEntered (accepted name since) documents ∧
        store.count name = documents.length ∧
        (name.Valid → drained store name everything = .ok (documents.map .ok))) ∧
    (store.isStarted = false →
      store.collectionNames = [] ∧ (∀ name, store.count name = 0) ∧
      (∀ name batch, (∃ error, (store.insertMany name batch).result = .error error) ∧
        (store.insertMany name batch).state = store) ∧
      (∀ name pipeline, ∃ error, (store.aggregate name pipeline).result = .error error) ∧
      ∀ more, history store more = history new more ∧
        (after store more).collectionNames = (after new more).collectionNames ∧
        ∀ name, (after store more).count name = (after new more).count name) := by
  intro new store events
  have hrecorded : Recorded events store := recorded_history rfl calls
  refine ⟨fun name label => ⟨start_eq_ok_iff, start_refused⟩, rfl, rfl, hrecorded.started_iff,
    ?_, ?_⟩
  · intro since hsince
    refine ⟨hrecorded.last_start since hsince, fun name => ?_⟩
    have hstarted := hrecorded.started_iff.2 ⟨since, hsince⟩
    obtain ⟨session, hsession⟩ := Option.isSome_iff_exists.1 hstarted
    refine ⟨session.documents name, hrecorded.entered session hsession since hsince name, ?_,
      drained_everything hsession⟩
    rw [Store.count, hsession]
  · intro hstopped
    have hsession : store.session = none := by simpa [Store.isStarted] using hstopped
    refine ⟨?_, ?_, insertMany_stopped hsession, aggregate_stopped hsession, fun more => ?_⟩
    · rw [Store.collectionNames, hsession]
    · intro name
      rw [Store.count, hsession]
    · have htwin : Twin store new := twin_of_stopped hsession rfl
      obtain ⟨hhistory, hafter⟩ := htwin.run more
      exact ⟨hhistory, hafter.collectionNames_eq, hafter.count_eq⟩

/-! ## Guests of two sessions -/

/-- Two guests come to the first session and one comes to the second, with refused calls between. -/
def guestCalls : List Call :=
  [.start " " "none", .start "db" "first", .insertMany guests [.obj [], .obj []],
    .start "other" "second", .insertMany guests [guest (.int 1)], .stop,
    .insertMany guests [.obj []], .start "db" "third", .insertMany guests [.obj []]]

/-- What happens in the second session: the guest gets the first number again. -/
def secondSession : List Event := [.inserted guests [.obj []] (.ok ⟨[.int 1], 1⟩)]

theorem second_session_alone :
    let new : Store := ⟨none, 0, 2, Nat.two_pos⟩
    let store := after new guestCalls
    Running (history new guestCalls) secondSession ∧ guests.Valid ∧
    (∃ documents, AllEntered [(.obj [], .int 1)] documents ∧
      store.count guests = documents.length ∧
      drained store guests everything = .ok (documents.map .ok)) ∧
    drained store guests everything = .ok [.ok (guest (.int 1))] ∧
    store.stop.state.isStarted = false ∧
    history store.stop.state guestCalls = history new guestCalls := by
  intro new store
  have hrunning : Running (history new guestCalls) secondSession :=
    ⟨(history new guestCalls).take 7, "db", "third", rfl, nofun⟩
  have hvalid : guests.Valid := by decide
  obtain ⟨-, -, -, -, hsince, -⟩ := life_of_store Nat.two_pos guestCalls
  obtain ⟨documents, hentered, hcount, hdrained⟩ := (hsince secondSession hrunning).2 guests
  obtain ⟨-, -, -, -, -, hstopped⟩ := life_of_store Nat.two_pos (guestCalls ++ [.stop])
  exact ⟨hrunning, hvalid, ⟨documents, hentered, hcount, hdrained hvalid⟩, rfl, rfl,
    ((hstopped rfl).2.2.2.2 guestCalls).1⟩

end DocStore.Proofs.Store.Sessions
