import DocStore.Proofs.Store.Generated
import DocStore.Proofs.Store.Sessions

/-!
# The numbers that documents get

A document that carries no identifier is stored under the number after the greatest one before it,
whether this came from an earlier batch or from the same one. `Numbered` says so of documents in a
row. Every staged batch has it, and so has all that was accepted since the last start; where no
document carries an identifier the numbers count the documents.
-/
namespace DocStore.Proofs.Store.Numbering

open Batch Counter Generated Identity Life Sessions Staging

variable {name : CollectionName} {stored : Collection} {batch : List Json}
variable {before : List DocumentId} {given more : List (Json × DocumentId)}
variable {entry : Json × DocumentId} {id : DocumentId} {i : Nat}

/-- Behind the identifiers `before`, each document that carries none has the number after the
greatest one. Behind `top` there is no such number. -/
inductive Numbered : List DocumentId → List (Json × DocumentId) → Prop
  | nil {before : List DocumentId} : Numbered before []
  | cons {before : List DocumentId} {document : Json} {id : DocumentId}
      {rest : List (Json × DocumentId)} :
      (Anonymous document → greatest before < top → number id = greatest before + 1) →
      Numbered (before ++ [id]) rest → Numbered before ((document, id) :: rest)

theorem Numbered.append (h : Numbered before given)
    (hmore : Numbered (before ++ given.map (·.2)) more) : Numbered before (given ++ more) := by
  induction h with
  | nil => simpa using hmore
  | cons hfirst _ ih => exact .cons hfirst (ih (by simpa using hmore))

theorem Numbered.number_eq (h : Numbered before given) (hentry : given[i]? = some entry)
    (hanonymous : Anonymous entry.1)
    (htop : greatest (before ++ (given.take i).map (·.2)) < top) :
    number entry.2 = greatest (before ++ (given.take i).map (·.2)) + 1 := by
  induction h generalizing i with
  | nil => cases hentry
  | @cons before document id rest hfirst _ ih =>
    cases i with
    | zero =>
      obtain rfl := Option.some.inj hentry
      simpa using hfirst hanonymous (by simpa using htop)
    | succ i =>
      have hsplit : before ++ (((document, id) :: rest).take (i + 1)).map (·.2) =
          before ++ [id] ++ (rest.take i).map (·.2) := by simp
      rw [hsplit] at htop ⊢
      exact ih hentry htop

/-- Documents without identifiers get one number after the other. -/
theorem Numbered.consecutive (h : Numbered before given)
    (hanonymous : ∀ entry ∈ given, Anonymous entry.1) (hentry : given[i]? = some entry)
    (htop : greatest before + i < top) : number entry.2 = greatest before + i + 1 := by
  induction h generalizing i with
  | nil => cases hentry
  | @cons before document id rest hfirst _ ih =>
    rw [List.forall_mem_cons] at hanonymous
    have hnumber : number id = greatest before + 1 := hfirst hanonymous.1 (by omega)
    cases i with
    | zero =>
      obtain rfl := Option.some.inj hentry
      exact hnumber
    | succ i =>
      have hgreatest : greatest (before ++ [id]) = greatest before + 1 := by
        rw [greatest_concat, hnumber]
        omega
      have hrest := ih hanonymous.2 hentry (by omega)
      omega

/-! ## Staging -/

theorem not_anonymous {fields : List (String × Json)}
    (h : Fields.get? DocumentId.field fields = some id.toJson) : ¬ Anonymous (.obj fields) := by
  rintro (hnone | hnull)
  · cases h.symm.trans hnone
  · cases id <;> cases h.symm.trans hnull

theorem number_of_add {staged staged' : Staged} {document : Json}
    (hadd : Staged.add name stored staged document = .ok staged')
    (h : Counted (stored.ids ++ staged.ids) staged.lastId) :
    ∃ id, staged'.ids = staged.ids ++ [id] ∧
      (Anonymous document → greatest (stored.ids ++ staged.ids) < top →
        number id = greatest (stored.ids ++ staged.ids) + 1) := by
  obtain ⟨fields, fields', id, lastId', rfl, hid, -, -, rfl⟩ := add_cases hadd
  refine ⟨id, rfl, fun hanonymous htop => ?_⟩
  rcases identify_cases hid with ⟨-, rfl, -, -⟩ | ⟨hcarried, -, -⟩
  · have hlast : staged.lastId.toNat = greatest (stored.ids ++ staged.ids) := h htop
    rw [number_after, if_pos (by omega), hlast]
  · exact absurd hanonymous (not_anonymous hcarried)

theorem foldlM_add_numbered {staged staged' : Staged}
    (hstage : batch.foldlM (Staged.add name stored) staged = .ok staged')
    (h : Counted (stored.ids ++ staged.ids) staged.lastId) :
    ∃ ids, staged'.ids = staged.ids ++ ids ∧ ids.length = batch.length ∧
      Numbered (stored.ids ++ staged.ids) (batch.zip ids) := by
  induction batch generalizing staged with
  | nil =>
    cases hstage
    exact ⟨[], (List.append_nil _).symm, rfl, .nil⟩
  | cons document rest ih =>
    rw [List.foldlM_cons] at hstage
    obtain ⟨middle, hadd, hrest⟩ := bind_eq_ok hstage
    obtain ⟨id, hid, hnumber⟩ := number_of_add hadd h
    obtain ⟨ids, hids, hlength, hnumbered⟩ := ih hrest (h.add hadd)
    rw [hid, ← List.append_assoc] at hnumbered
    refine ⟨id :: ids, ?_, congrArg Nat.succ hlength, .cons hnumber hnumbered⟩
    rw [hids, hid, List.append_assoc]
    rfl

/-- The documents of a batch are numbered on from those of the collection. -/
theorem stage_numbered {staged : Staged} (hstage : stored.stage name batch = .ok staged)
    (h : Counted stored.ids stored.lastId) :
    staged.ids.length = batch.length ∧ Numbered stored.ids (batch.zip staged.ids) := by
  obtain ⟨ids, hids, hlength, hnumbered⟩ := foldlM_add_numbered hstage (by simpa using h)
  rw [List.append_nil] at hnumbered
  rw [show staged.ids = ids from hids]
  exact ⟨hlength, hnumbered⟩

/-! ## Runs -/

/-- A collection keeps the identifiers under which its documents were accepted, and these are
numbered from the beginning. -/
structure Listed (given : List (Json × DocumentId)) (stored : Collection) : Prop where
  ids_eq : stored.ids = given.map (·.2)
  numbered : Numbered [] given
  counted : Counted stored.ids stored.lastId

theorem Listed.append (h : Listed given stored) {staged : Staged}
    (hstage : stored.stage name batch = .ok staged) :
    Listed (given ++ batch.zip staged.ids) (stored.append staged) := by
  obtain ⟨hlength, hnumbered⟩ := stage_numbered hstage h.counted
  constructor
  · rw [List.map_append, List.map_snd_zip (Nat.le_of_eq hlength), ← h.ids_eq]
    rfl
  · apply h.numbered.append
    rwa [List.nil_append, ← h.ids_eq]
  · exact Counted.foldlM_add hstage (by simpa using h.counted)

theorem listed_of_running {store : Store} {calls : List Call} {since : List Event}
    (hstopped : store.session = none) {session : Session}
    (hrunning : Running (history store calls) since)
    (hsession : (after store calls).session = some session) (name : CollectionName) :
    Listed (accepted name since) (held session name) := by
  refine accepted_property (P := Listed) ⟨rfl, .nil, fun _ => rfl⟩ ?_ hstopped hrunning hsession
    name
  intro given stored name batch staged hstage h
  exact h.append hstage

/-! ## What is stored -/

/-- The identifier in the document is this number. -/
def HasNumber (document : Json) (n : Nat) : Prop :=
  ∃ whole : Integer, document.field? DocumentId.field = some (.num (.int whole)) ∧ whole.value = n

theorem hasNumber_of_number {document : Json} {n : Nat}
    (hfield : document.field? DocumentId.field = some id.toJson) (hnumber : number id = n + 1) :
    HasNumber document (n + 1) := by
  obtain ⟨value, -, rfl⟩ := number_pos_iff.1 (show 0 < number id by omega)
  refine ⟨.ofInt64 value, hfield, ?_⟩
  have hvalue : value.toInt.toNat = n + 1 := hnumber
  have hint : (Integer.ofInt64 value).value = value.toInt := rfl
  omega

theorem eq_of_entered {document kept : Json} (h : Entered document id kept)
    (hcarries : ¬ Anonymous document) : kept = document := by
  cases h with
  | carried _ => rfl
  | filled hanonymous => exact absurd hanonymous hcarries

/-- What a document of a batch is stored as, `earlier` being all documents stored before it. -/
structure StoredBehind (earlier : List Json) (document kept : Json) : Prop where
  numbered : Anonymous document → greatest (identifiers earlier) < top →
    HasNumber kept (greatest (identifiers earlier) + 1)
  kept_eq : ¬ Anonymous document → kept = document

theorem stage_storedBehind {staged : Staged} {stored : Collection}
    {entries : List (DocumentId × Json)} (hkeyed : Keyed stored entries)
    (hcounted : Counted stored.ids stored.lastId)
    (hstage : stored.stage name batch = .ok staged) {document kept : Json}
    (hdocument : batch[i]? = some document) (hkept : staged.documents[i]? = some kept) :
    StoredBehind (stored.documents ++ staged.documents.take i) document kept := by
  obtain ⟨more, hall, hdocuments, hids⟩ := stage_entered hstage
  obtain ⟨hlength, hnumbered⟩ := stage_numbered hstage hcounted
  rw [hdocuments, List.getElem?_map] at hkept
  obtain ⟨entry, hentry, rfl⟩ := Option.map_eq_some_iff.1 hkept
  have hid : staged.ids[i]? = some entry.1 := by rw [hids, List.getElem?_map, hentry]; rfl
  have hentered : Entered document entry.1 entry.2 := by
    have hzip : (batch.zip more)[i]? = some (document, entry) :=
      List.getElem?_zip_eq_some.2 ⟨hdocument, hentry⟩
    exact (List.forall₂_iff_zip.1 hall).2 (List.mem_of_getElem? hzip)
  have hearlier : identifiers (stored.documents ++ staged.documents.take i) =
      stored.ids ++ ((batch.zip staged.ids).take i).map (·.2) := by
    have htaken : ∀ entry ∈ more.take i,
        entry.2.field? DocumentId.field = some entry.1.toJson := fun entry h =>
      field?_of_mem_entries hall entry (List.mem_of_mem_take h)
    rw [identifiers_append, ids_eq_identifiers hkeyed, hdocuments, ← List.map_take,
      identifiers_entries htaken, List.map_take, List.map_take, ← hids,
      List.map_snd_zip (Nat.le_of_eq hlength)]
  constructor
  · intro hanonymous htop
    rw [hearlier] at htop ⊢
    have hpair : (batch.zip staged.ids)[i]? = some (document, entry.1) :=
      List.getElem?_zip_eq_some.2 ⟨hdocument, hid⟩
    exact hasNumber_of_number hentered.field?_eq (hnumbered.number_eq hpair hanonymous htop)
  · exact eq_of_entered hentered

/-- An accepted batch stores each document without an identifier under the number after the greatest
one that is stored before it, in this batch or earlier, and every other document as it is. If all
that was accepted into a collection since the last start came without identifiers, its documents are
numbered by their places, whatever was refused in between. -/
theorem documents_numbered :
    (∀ (store : Store) (session : Session) (name : CollectionName) (batch : List Json)
        (inserted : Inserted),
      Reachable store → store.session = some session →
      (store.insertMany name batch).result = .ok inserted →
        ∃ (after : Session) (added : List Json),
          (store.insertMany name batch).state.session = some after ∧
          after.documents name = session.documents name ++ added ∧
          added.length = batch.length ∧
          ∀ i document kept, batch[i]? = some document → added[i]? = some kept →
            StoredBehind (session.documents name ++ added.take i) document kept) ∧
    ∀ (pageSize : Nat) (hpageSize : 0 < pageSize) (calls : List Call) (since : List Event)
        (session : Session) (name : CollectionName),
      let new : Store := ⟨none, 0, pageSize, hpageSize⟩
      Running (history new calls) since → (after new calls).session = some session →
      (∀ entry ∈ accepted name since, Anonymous entry.1) →
        ∀ n document, n < top → (session.documents name)[n]? = some document →
          HasNumber document (n + 1) := by
  constructor
  · intro store session name batch inserted hreachable hsession hresult
    rcases insertMany_cases store name batch with
      ⟨error, herror, -⟩ | ⟨before, staged, -, hbefore, hstage, -, hstate⟩
    · rw [herror] at hresult
      cases hresult
    · obtain rfl := Option.some.inj (hsession.symm.trans hbefore)
      obtain ⟨entries, hkeyed⟩ := (indexed_of_reachable hreachable hsession).held name
      have hcounted := counted_of_reachable hreachable hsession name
      obtain ⟨more, hall, hdocuments, -⟩ := stage_entered hstage
      refine ⟨extended session name staged, staged.documents, by rw [hstate],
        documents_extended_self session name staged, ?_, ?_⟩
      · rw [hdocuments, List.length_map, hall.length_eq]
      · intro i document kept hdocument hkept
        rw [documents_held]
        exact stage_storedBehind hkeyed hcounted hstage hdocument hkept
  · intro pageSize hpageSize calls since session name new hrunning hsession hanonymous n document
      hn hdocument
    have hlisted := listed_of_running rfl hrunning hsession name
    have hentered := (recorded_history rfl calls).entered session hsession since hrunning name
    have hlength : (accepted name since).length = (session.documents name).length :=
      hentered.length_eq
    obtain ⟨hlt, -⟩ := List.getElem?_eq_some_iff.1 hdocument
    obtain ⟨entry, hentry⟩ : ∃ entry, (accepted name since)[n]? = some entry :=
      ⟨_, List.getElem?_eq_getElem (hlength ▸ hlt)⟩
    have hzip : ((accepted name since).zip (session.documents name))[n]? = some (entry, document) :=
      List.getElem?_zip_eq_some.2 ⟨hentry, hdocument⟩
    have hkept : Entered entry.1 entry.2 document :=
      (List.forall₂_iff_zip.1 hentered).2 (List.mem_of_getElem? hzip)
    have hzero : greatest [] = 0 := rfl
    have hnumber := hlisted.numbered.consecutive hanonymous hentry (by omega)
    exact hasNumber_of_number hkept.field?_eq (by omega)

/-! ## Guests with and without numbers -/

/-- A book with a negative number, a text and a number that jumps ahead. -/
def book : Store := bookWith [.int (-7), .text "x", .int 10]

def bookSession : Session where
  name := "db"
  label := "first"
  number := 1
  collections := [("guests",
    ⟨[guest (.int (-7)), guest (.text "x"), guest (.int 10)], [.int (-7), .text "x", .int 10], 10⟩)]

def arrivals : List Json :=
  [.obj [], .obj [("_id", .null)], guest (.text "y"), guest (.int 20), guest (.int 3), .obj []]

def arrived : List Json :=
  [guest (.int 11), guest (.int 12), guest (.text "y"), guest (.int 20), guest (.int 3),
    guest (.int 21)]

/-- Guests without numbers, and two batches that are refused: one repeats the first number, the
other has a text in it. -/
def visits : List Call :=
  [.start "db" "first", .insertMany guests [.obj [], .obj []],
    .insertMany guests [guest (.int 7), guest (.int 1)],
    .insertMany guests [.obj [], .str "x"], .insertMany guests [.obj []]]

def visited : List Event :=
  [.inserted guests [.obj [], .obj []] (.ok ⟨[.int 1, .int 2], 2⟩),
    .inserted guests [guest (.int 7), guest (.int 1)]
      (.error (.writeFailure (.duplicateId (.int 1) guests))),
    .inserted guests [.obj [], .str "x"] (.error (.writeFailure (.notObject 1 guests))),
    .inserted guests [.obj []] (.ok ⟨[.int 3], 1⟩)]

theorem twenty_first_and_third_guest :
    Reachable book ∧ book.session = some bookSession ∧
    (book.insertMany guests arrivals).result =
      .ok ⟨[.int 11, .int 12, .text "y", .int 20, .int 3, .int 21], 6⟩ ∧
    StoredBehind (bookSession.documents guests ++ arrived.take 5) (.obj []) (guest (.int 21)) ∧
    HasNumber (guest (.int 21)) 21 ∧
    Running (history ⟨none, 0, 2, Nat.two_pos⟩ visits) visited ∧
    (∀ entry ∈ accepted guests visited, Anonymous entry.1) ∧
    HasNumber (guest (.int 3)) 3 := by
  have hreachable : Reachable book := bookWith_reachable _
  have hsession : book.session = some bookSession := by rfl
  have hresult : (book.insertMany guests arrivals).result =
      .ok ⟨[.int 11, .int 12, .text "y", .int 20, .int 3, .int 21], 6⟩ := by rfl
  obtain ⟨session, added, hafter, hadded, -, hstored⟩ :=
    documents_numbered.1 book bookSession guests arrivals _ hreachable hsession hresult
  have harrived : added = arrived := by
    have hdocuments : session.documents guests = bookSession.documents guests ++ arrived := by
      obtain rfl := Option.some.inj hafter
      rfl
    exact List.append_cancel_left (hadded.symm.trans hdocuments)
  rw [harrived] at hstored
  have hlast := hstored 5 (.obj []) (guest (.int 21)) rfl rfl
  have hrunning : Running (history ⟨none, 0, 2, Nat.two_pos⟩ visits) visited :=
    ⟨[], "db", "first", rfl, nofun⟩
  have hanonymous : ∀ entry ∈ accepted guests visited, Anonymous entry.1 := by
    have haccepted : accepted guests visited =
        [(.obj [], .int 1), (.obj [], .int 2), (.obj [], .int 3)] := by rfl
    have hnew : Anonymous (.obj []) := .inl rfl
    rw [haccepted]
    simp only [List.forall_mem_cons]
    exact ⟨hnew, hnew, hnew, List.forall_mem_nil _⟩
  exact ⟨hreachable, hsession, hresult, hlast, hlast.numbered (.inl rfl) (by decide), hrunning,
    hanonymous, documents_numbered.2 2 Nat.two_pos visits visited _ guests hrunning rfl hanonymous 2
      (guest (.int 3)) (by decide) rfl⟩

end DocStore.Proofs.Store.Numbering
