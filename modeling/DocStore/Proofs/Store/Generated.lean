import DocStore.Proofs.Store.Counter

/-!
# Generated identifiers

A batch of documents without identifiers gets the numbers that follow the counter. It is taken if
these are new, and they are positive as long as the counter does not come past `top`. So generated
identifiers are fresh exactly if they neither wrap nor meet a number that was given before.
-/
namespace DocStore.Proofs.Store.Generated

open Batch Counter Identity Life Staging

variable {name : CollectionName} {stored : Collection} {batch : List Json} {lastId : UInt64}
variable {id : DocumentId}

/-- An object without an identifier. -/
def Unnamed (document : Json) : Prop := document.isObject = true ∧ Anonymous document

/-- The identifiers that a counter generates, one after the other. -/
def generated : UInt64 → Nat → List DocumentId
  | _, 0 => []
  | lastId, count + 1 => .after lastId :: generated (lastId + 1) count

theorem identify_anonymous {fields : List (String × Json)} (h : Anonymous (.obj fields)) :
    Staged.identify name lastId fields =
      .ok (Fields.insert DocumentId.field (DocumentId.after lastId).toJson fields, .after lastId,
        lastId + 1) := by
  have hfield : Fields.get? DocumentId.field fields = none ∨
      Fields.get? DocumentId.field fields = some .null := h
  rcases hfield with hnone | hnull
  · simp only [Staged.identify, hnone]
  · simp only [Staged.identify, hnull]

/-- A document without an identifier is accepted if the next one is new. -/
theorem add_unnamed (name : CollectionName) {document : Json} (h : Unnamed document)
    {staged : Staged} (hfresh : DocumentId.after staged.lastId ∉ stored.ids ++ staged.ids) :
    ∃ kept, Staged.add name stored staged document = .ok
      ⟨staged.documents ++ [kept], staged.ids ++ [.after staged.lastId], staged.lastId + 1⟩ := by
  obtain ⟨hobject, hanonymous⟩ := h
  cases document with
  | obj fields =>
    rw [List.mem_append] at hfresh
    let id := DocumentId.after staged.lastId
    refine ⟨.obj (Fields.insert DocumentId.field id.toJson fields), ?_⟩
    rw [Staged.add, identify_anonymous hanonymous]
    exact if_neg hfresh
  | null | bool _ | num _ | str _ | arr _ => cases hobject

theorem ids_of_add_unnamed {document : Json} (h : Unnamed document) {staged staged' : Staged}
    (hadd : Staged.add name stored staged document = .ok staged') :
    staged'.ids = staged.ids ++ [.after staged.lastId] ∧ staged'.lastId = staged.lastId + 1 := by
  obtain ⟨fields, fields', id, lastId', rfl, hid, -, -, rfl⟩ := add_cases hadd
  rw [identify_anonymous h.2] at hid
  cases hid
  exact ⟨rfl, rfl⟩

theorem ids_of_foldlM_unnamed (hbatch : ∀ document ∈ batch, Unnamed document)
    {staged staged' : Staged} (h : batch.foldlM (Staged.add name stored) staged = .ok staged') :
    staged'.ids = staged.ids ++ generated staged.lastId batch.length := by
  induction batch generalizing staged with
  | nil =>
    cases h
    exact (List.append_nil _).symm
  | cons document rest ih =>
    rw [List.forall_mem_cons] at hbatch
    obtain ⟨hdocument, hrest⟩ := hbatch
    rw [List.foldlM_cons] at h
    obtain ⟨middle, hadd, hmore⟩ := bind_eq_ok h
    obtain ⟨hids, hlast⟩ := ids_of_add_unnamed hdocument hadd
    rw [ih hrest hmore, hids, hlast, List.append_assoc]
    rfl

theorem foldlM_unnamed (hbatch : ∀ document ∈ batch, Unnamed document) {staged : Staged}
    (hnodup : (stored.ids ++ staged.ids ++ generated staged.lastId batch.length).Nodup) :
    ∃ staged', batch.foldlM (Staged.add name stored) staged = .ok staged' := by
  induction batch generalizing staged with
  | nil => exact ⟨staged, rfl⟩
  | cons document rest ih =>
    rw [List.forall_mem_cons] at hbatch
    obtain ⟨hdocument, hrest⟩ := hbatch
    have hsplit : stored.ids ++ staged.ids ++ generated staged.lastId (rest.length + 1) =
        stored.ids ++ (staged.ids ++ [.after staged.lastId]) ++
          generated (staged.lastId + 1) rest.length := by
      simp [generated]
    rw [List.length_cons, hsplit] at hnodup
    have hfresh : DocumentId.after staged.lastId ∉ stored.ids ++ staged.ids := by
      rw [← List.append_assoc] at hnodup
      have hconcat := (List.nodup_append.1 hnodup).1
      intro hmem
      exact (List.nodup_append.1 hconcat).2.2 _ hmem _ (List.mem_singleton_self _) rfl
    obtain ⟨kept, hadd⟩ := add_unnamed name hdocument hfresh
    rw [List.foldlM_cons, hadd]
    exact ih hrest hnodup

/-- A batch without identifiers is staged exactly if the generated ones are new. -/
theorem stage_unnamed_iff (name : CollectionName) (hbatch : ∀ document ∈ batch, Unnamed document)
    (hnodup : stored.ids.Nodup) :
    (∃ staged, stored.stage name batch = .ok staged) ↔
      (stored.ids ++ generated stored.lastId batch.length).Nodup := by
  constructor
  · rintro ⟨staged, hstage⟩
    have hids := ids_of_foldlM_unnamed hbatch hstage
    have hall := foldlM_add_nodup hstage (by simpa using hnodup)
    rw [hids] at hall
    exact hall
  · intro hall
    exact foldlM_unnamed hbatch (by simpa using hall)

/-! ## Numbers that do not wrap -/

/-- A generated identifier is positive exactly if no word before it was `top`. -/
theorem generated_positive_iff {count : Nat} :
    (∀ id ∈ generated lastId count, 0 < number id) ↔ count = 0 ∨ lastId.toNat + count ≤ top := by
  induction count generalizing lastId with
  | zero => simp [generated]
  | succ count ih =>
    rw [generated, List.forall_mem_cons, ih, number_after]
    by_cases htop : lastId.toNat < top
    · rw [if_pos htop, toNat_add_one htop]
      omega
    · rw [if_neg htop]
      omega

theorem mem_generated_iff {count : Nat} (h : lastId.toNat + count ≤ top) :
    id ∈ generated lastId count ↔
      lastId.toNat < number id ∧ number id ≤ lastId.toNat + count := by
  induction count generalizing lastId with
  | zero =>
    simp only [generated, List.not_mem_nil, false_iff]
    omega
  | succ count ih =>
    have htop : lastId.toNat < top := by omega
    have hsucc := toNat_add_one htop
    have hfirst := number_after lastId
    rw [if_pos htop] at hfirst
    rw [generated, List.mem_cons, ih (by omega), hsucc]
    constructor
    · rintro (rfl | hrest)
      · omega
      · omega
    · rintro ⟨hlower, hupper⟩
      by_cases heq : number id = lastId.toNat + 1
      · left
        exact eq_of_number_eq (by omega) (heq.trans hfirst.symm)
      · right
        omega

theorem generated_nodup {count : Nat} (h : lastId.toNat + count ≤ top) :
    (generated lastId count).Nodup := by
  induction count generalizing lastId with
  | zero => exact List.nodup_nil
  | succ count ih =>
    have htop : lastId.toNat < top := by omega
    have hsucc := toNat_add_one htop
    have hfirst := number_after lastId
    rw [if_pos htop] at hfirst
    have hle : (lastId + 1).toNat + count ≤ top := by omega
    refine List.nodup_cons.2 ⟨fun hmem => ?_, ih hle⟩
    have hlower := ((mem_generated_iff hle).1 hmem).1
    omega

/-- Generated numbers that are positive are new exactly if none of them was given before. -/
theorem nodup_append_generated_iff {count : Nat} (hnodup : stored.ids.Nodup)
    (h : stored.lastId.toNat + count ≤ top) :
    (stored.ids ++ generated stored.lastId count).Nodup ↔
      ∀ id ∈ stored.ids, number id ≤ stored.lastId.toNat ∨
        stored.lastId.toNat + count < number id := by
  rw [List.nodup_append]
  constructor
  · rintro ⟨-, -, hdisjoint⟩ id hid
    by_contra hbetween
    have hmem : id ∈ generated stored.lastId count := (mem_generated_iff h).2 (by omega)
    exact hdisjoint id hid id hmem rfl
  · intro houtside
    refine ⟨hnodup, generated_nodup h, ?_⟩
    rintro id hid _ hmem rfl
    have hbetween := (mem_generated_iff h).1 hmem
    have hout := houtside id hid
    omega

/-! ## What an insert answers -/

/-- The identifiers that documents carry. -/
def identifiers (documents : List Json) : List DocumentId :=
  documents.filterMap fun document =>
    (document.field? DocumentId.field).bind DocumentId.ofJson?

theorem identifiers_append (documents more : List Json) :
    identifiers (documents ++ more) = identifiers documents ++ identifiers more :=
  List.filterMap_append

theorem identifiers_entries {entries : List (DocumentId × Json)}
    (h : ∀ entry ∈ entries, entry.2.field? DocumentId.field = some entry.1.toJson) :
    identifiers (entries.map (·.2)) = entries.map (·.1) := by
  have hread : ∀ entry ∈ entries,
      ((entry.2.field? DocumentId.field).bind DocumentId.ofJson?) = some entry.1 := by
    intro entry hentry
    rw [h entry hentry]
    exact DocumentId.ofJson?_toJson entry.1
  rw [identifiers, List.filterMap_map, ← List.filterMap_eq_map]
  exact List.filterMap_congr hread

theorem ids_eq_identifiers {entries : List (DocumentId × Json)} (h : Keyed stored entries) :
    stored.ids = identifiers stored.documents := by
  rw [h.ids_eq, h.documents_eq, identifiers_entries h.carries]

/-- The whole batch is taken, each document under a positive number that no other one of the batch
and none of `documents` carries. -/
structure Fresh (documents batch : List Json) (inserted : Inserted) : Prop where
  length_ids : inserted.ids.length = batch.length
  count_eq : inserted.count = batch.length
  nodup : inserted.ids.Nodup
  positive : ∀ id ∈ inserted.ids, ∃ value : Int64, 0 < value ∧ id = .int value
  unused : ∀ id ∈ inserted.ids, ∀ document ∈ documents, ∀ value,
    document.field? DocumentId.field = some value → value.equal id.toJson = false

theorem number_pos_iff : 0 < number id ↔ ∃ value : Int64, 0 < value ∧ id = .int value := by
  cases id with
  | int value => simp [number, Int64.toNatClampNeg_pos_iff]
  | text _ => simp [number]

/-- What a document carries is, as a value, an identifier that the collection keeps. -/
theorem equal_eq_false_of_new {entries : List (DocumentId × Json)} (h : Keyed stored entries)
    (hnew : id ∉ stored.ids) {document value : Json} (hdocument : document ∈ stored.documents)
    (hvalue : document.field? DocumentId.field = some value) : value.equal id.toJson = false := by
  obtain ⟨i, hi⟩ := List.getElem?_of_mem hdocument
  obtain ⟨other, hother, rfl⟩ := h.getElem?_ids hi hvalue
  rw [Bool.eq_false_iff]
  intro hequal
  obtain rfl := (equal_toJson_iff other id).1 hequal
  exact hnew (List.mem_of_getElem? hother)

/-- Generated identifiers that are positive and new are fresh. -/
theorem stage_fresh (name : CollectionName) {entries : List (DocumentId × Json)}
    (h : Keyed stored entries) (hbatch : ∀ document ∈ batch, Unnamed document)
    (hall : (stored.ids ++ generated stored.lastId batch.length).Nodup)
    (hpositive : ∀ id ∈ generated stored.lastId batch.length, 0 < number id) :
    ∃ staged, stored.stage name batch = .ok staged ∧
      Fresh stored.documents batch ⟨staged.ids, staged.ids.length⟩ := by
  obtain ⟨staged, hstage⟩ := (stage_unnamed_iff name hbatch h.nodup).2 hall
  have hids : staged.ids = generated stored.lastId batch.length :=
    ids_of_foldlM_unnamed hbatch hstage
  have hlength : staged.ids.length = batch.length := by
    obtain ⟨more, hforall, -, hmore⟩ := stage_entered hstage
    rw [hmore, List.length_map, hforall.length_eq]
  obtain ⟨-, hnodup, hdisjoint⟩ := List.nodup_append.1 hall
  rw [← hids] at hnodup hpositive hdisjoint
  refine ⟨staged, hstage, hlength, hlength, hnodup, ?_, ?_⟩
  · exact fun id hid => number_pos_iff.1 (hpositive id hid)
  · intro id hid document hdocument value hvalue
    exact equal_eq_false_of_new h (fun hmem => hdisjoint id hmem id hid rfl) hdocument hvalue

/-- Staging gives fresh identifiers exactly if the numbers after the counter go on to `top` at most
and none of them was given. -/
theorem stage_fresh_iff {entries : List (DocumentId × Json)} (h : Keyed stored entries)
    (hbatch : ∀ document ∈ batch, Unnamed document) :
    (∃ staged, stored.stage name batch = .ok staged ∧
        Fresh stored.documents batch ⟨staged.ids, staged.ids.length⟩) ↔
      batch = [] ∨ stored.lastId.toNat + batch.length ≤ top ∧
        ∀ id ∈ stored.ids, number id ≤ stored.lastId.toNat ∨
          stored.lastId.toNat + batch.length < number id := by
  constructor
  · rintro ⟨staged, hstage, hfresh⟩
    have hids : staged.ids = generated stored.lastId batch.length :=
      ids_of_foldlM_unnamed hbatch hstage
    have hpositive : ∀ id ∈ generated stored.lastId batch.length, 0 < number id := by
      rw [← hids]
      exact fun id hid => number_pos_iff.2 (hfresh.positive id hid)
    rcases generated_positive_iff.1 hpositive with hnone | hle
    · exact .inl (List.length_eq_zero_iff.1 hnone)
    · have hall := (stage_unnamed_iff name hbatch h.nodup).1 ⟨staged, hstage⟩
      exact .inr ⟨hle, (nodup_append_generated_iff h.nodup hle).1 hall⟩
  · intro hcondition
    apply stage_fresh name h hbatch
    · rcases hcondition with rfl | ⟨hle, houtside⟩
      · simpa [generated] using h.nodup
      · exact (nodup_append_generated_iff h.nodup hle).2 houtside
    · rw [generated_positive_iff, List.length_eq_zero_iff]
      exact hcondition.imp_right And.left

/-- An insert into a store takes a batch, and under fresh identifiers. -/
def TakesFresh (store : Store) (name : CollectionName) (documents batch : List Json) : Prop :=
  ∃ inserted, (store.insertMany name batch).result = .ok inserted ∧ Fresh documents batch inserted

/-- Whatever a store went through, documents without identifiers are taken under fresh ones exactly
if the counter does not come past `top` and meets no number that was given. Before `top` itself was
given the counter is the greatest number in the collection, so only the room up to `top` counts. -/
theorem insertMany_fresh_iff {store : Store} (h : Reachable store) {session : Session}
    (hsession : store.session = some session) {name : CollectionName} (hvalid : name.Valid)
    {batch : List Json} (hbatch : ∀ document ∈ batch, Unnamed document) :
    let documents := session.documents name
    let ids := identifiers documents
    let last := (held session name).lastId.toNat
    (TakesFresh store name documents batch ↔
      batch = [] ∨ last + batch.length ≤ top ∧
        ∀ id ∈ ids, number id ≤ last ∨ last + batch.length < number id) ∧
    (greatest ids < top →
      (TakesFresh store name documents batch ↔ greatest ids + batch.length ≤ top)) := by
  intro documents ids last
  obtain ⟨entries, hkeyed⟩ := (indexed_of_reachable h hsession).held name
  have hdocuments : documents = (held session name).documents := documents_held session name
  have hids : ids = (held session name).ids := by
    rw [ids_eq_identifiers hkeyed, ← hdocuments]
  have hiff : TakesFresh store name documents batch ↔
      batch = [] ∨ last + batch.length ≤ top ∧
        ∀ id ∈ ids, number id ≤ last ∨ last + batch.length < number id := by
    rw [hids, ← stage_fresh_iff hkeyed hbatch, ← hdocuments]
    simp only [TakesFresh, insertMany_eq_ok_iff hsession hvalid]
    constructor
    · rintro ⟨_, ⟨staged, hstage, rfl⟩, hfresh⟩
      exact ⟨staged, hstage, hfresh⟩
    · rintro ⟨staged, hstage, hfresh⟩
      exact ⟨_, ⟨staged, hstage, rfl⟩, hfresh⟩
  refine ⟨hiff, fun hbelow => ?_⟩
  have hlast : last = greatest ids := by
    rw [hids] at hbelow ⊢
    exact counted_of_reachable h hsession name hbelow
  rw [hiff, hlast]
  constructor
  · rintro (rfl | ⟨hle, -⟩)
    · exact Nat.le_of_lt hbelow
    · exact hle
  · intro hle
    exact .inr ⟨hle, fun id hid => .inl (number_le_greatest hid)⟩

/-! ## Up to the greatest number and past it -/

/-- A guest book with one guest under each identifier. -/
def bookWith (ids : List DocumentId) : Store :=
  ((Store.new.start "db" "first").state.insertMany guests (ids.map guest)).state

theorem bookWith_reachable (ids : List DocumentId) : Reachable (bookWith ids) :=
  .insertMany _ _ (.start _ _ (.fresh _ (by decide)))

theorem unnamed_guest : ∀ document ∈ [Json.obj [], .obj [("_id", .null)]], Unnamed document := by
  simp only [List.forall_mem_cons]
  exact ⟨⟨rfl, .inl rfl⟩, ⟨rfl, .inr rfl⟩, List.forall_mem_nil _⟩

/-- There is room for two more guests below the greatest number, and for nobody behind it. -/
def nearlyFull : List DocumentId := [.int (-7), .text "x", .int (Int64.maxValue - 2)]

def nearlyFullSession : Session where
  name := "db"
  label := "first"
  number := 1
  collections := [("guests",
    ⟨nearlyFull.map guest, nearlyFull, (Int64.maxValue - 2).toUInt64⟩)]

theorem two_guests_fresh :
    Reachable (bookWith nearlyFull) ∧ (bookWith nearlyFull).session = some nearlyFullSession ∧
    guests.Valid ∧ TakesFresh (bookWith nearlyFull) guests (nearlyFullSession.documents guests)
      [.obj [], .obj [("_id", .null)]] := by
  have hsession : (bookWith nearlyFull).session = some nearlyFullSession := by rfl
  have hvalid : guests.Valid := by decide
  have hfresh := insertMany_fresh_iff (bookWith_reachable nearlyFull) hsession hvalid unnamed_guest
  exact ⟨bookWith_reachable nearlyFull, hsession, hvalid, (hfresh.2 (by decide)).2 (by decide)⟩

/-- The greatest number and the least one. -/
def bothEnds : List DocumentId := [.int Int64.maxValue, .int Int64.minValue]

def bothEndsSession : Session where
  name := "db"
  label := "first"
  number := 1
  collections := [("guests", ⟨bothEnds.map guest, bothEnds, Int64.maxValue.toUInt64⟩)]

/-- Behind the greatest number a negative one is generated. If that one was given, a document that
carries no identifier is refused as a duplicate. -/
theorem next_guest_refused :
    Reachable (bookWith bothEnds) ∧ (bookWith bothEnds).session = some bothEndsSession ∧
    guests.Valid ∧ (∀ document ∈ [Json.obj []], Unnamed document) ∧
    ((bookWith bothEnds).insertMany guests [.obj []]).result =
      .error (.writeFailure (.duplicateId (.int Int64.minValue) guests)) ∧
    ¬ TakesFresh (bookWith bothEnds) guests (bothEndsSession.documents guests) [.obj []] ∧
    ((bookWith [.int Int64.maxValue]).insertMany guests [.obj []]).result =
      .ok ⟨[.int Int64.minValue], 1⟩ := by
  have hrefused : ((bookWith bothEnds).insertMany guests [.obj []]).result =
      .error (.writeFailure (.duplicateId (.int Int64.minValue) guests)) := by rfl
  refine ⟨bookWith_reachable bothEnds, by rfl, by decide, ?_, hrefused, ?_, by rfl⟩
  · exact List.forall_mem_singleton.2 ⟨rfl, .inl rfl⟩
  · rintro ⟨inserted, htaken, -⟩
    cases hrefused.symm.trans htaken

end DocStore.Proofs.Store.Generated
