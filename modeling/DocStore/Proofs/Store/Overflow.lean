import DocStore.Proofs.Store.Generated

/-!
# Where the counter stops counting

The counter of a collection is a word. It counts as long as it is not below any identifier, is the
same number when it is read with a sign, and has room for the next addition. All of this is kept by
every document of every batch, until one without an identifier comes behind `top`: this step leaves
the range of the numbers, and later ones can lead the counter back or past its own end.
-/
namespace DocStore.Proofs.Store.Overflow

open Batch Counter Generated Identity Life Staging

variable {name : CollectionName} {stored : Collection} {staged : Staged} {batch : List Json}
variable {ids : List DocumentId} {lastId lastId' : UInt64} {id : DocumentId} {document : Json}
variable {fields fields' : List (String × Json)} {i : Nat}

/-- The counter is not below any number among the identifiers, and reading it as a word with a sign
does not change it. -/
structure Counts (ids : List DocumentId) (lastId : UInt64) : Prop where
  bounds : ∀ value : Int64, .int value ∈ ids → value.toInt ≤ lastId.toNat
  cast : lastId.toInt64.toInt = lastId.toNat

/-- The loop comes to the document at place `i` with `staged`: those before it are accepted. -/
structure Comes (name : CollectionName) (stored : Collection) (batch : List Json) (i : Nat)
    (staged : Staged) (document : Json) : Prop where
  here : batch[i]? = some document
  accepted : stored.stage name (batch.take i) = .ok staged

/-- What one step of the loop does to the counter, whether the document is then taken or refused as
a duplicate. -/
structure StepCounts (name : CollectionName) (stored : Collection) (staged : Staged)
    (document : Json) : Prop where
  before : Counts (stored.ids ++ staged.ids) staged.lastId
  addition : Unnamed document → (staged.lastId + 1).toNat = staged.lastId.toNat + 1
  after : ∀ fields fields' id lastId', document = .obj fields →
    Staged.identify name staged.lastId fields = .ok (fields', id, lastId') →
    staged.lastId.toNat ≤ lastId'.toNat ∧ Counts (stored.ids ++ staged.ids ++ [id]) lastId'

/-! ## Counting and being exact -/

theorem counts_of_exact (h : Exact ids lastId) : Counts ids lastId where
  bounds value hvalue := by
    have hle := number_le_greatest hvalue
    have hnumber : number (.int value) = value.toInt.toNat := rfl
    have hlast : lastId.toNat = greatest ids := h
    omega
  cast := toInt_toInt64 h.le_top

theorem Counts.le_top (h : Counts ids lastId) : lastId.toNat ≤ top := by
  by_contra hbeyond
  have hneg := toInt_toInt64_neg (Nat.lt_of_not_le hbeyond)
  have hcast := h.cast
  omega

theorem Counts.greatest_le (h : Counts ids lastId) : greatest ids ≤ lastId.toNat := by
  apply Counter.greatest_le
  intro id hid
  cases id with
  | text _ => exact Nat.zero_le _
  | int value =>
    have hbound := h.bounds value hid
    have hnumber : number (.int value) = value.toInt.toNat := rfl
    omega

/-- A counter that counts is exact: at `top` there is no room for it to be anything else. -/
theorem Counts.exact (h : Counts ids lastId) (hcounted : Counted ids lastId) :
    Exact ids lastId := by
  by_cases htop : greatest ids < top
  · exact hcounted htop
  · have hle := h.greatest_le
    have hlast := h.le_top
    rw [Exact]
    omega

/-! ## One step and all steps -/

/-- An exact counter stays exact, unless a number is to be generated behind `top`. -/
theorem exact_of_identify (h : Exact ids lastId)
    (hbelow : Anonymous (.obj fields) → greatest ids < top)
    (hid : Staged.identify name lastId fields = .ok (fields', id, lastId')) :
    lastId.toNat ≤ lastId'.toNat ∧ Exact (ids ++ [id]) lastId' := by
  have hlast : lastId.toNat = greatest ids := h
  rcases identify_cases hid with ⟨hanonymous, rfl, rfl, -⟩ | ⟨-, rfl, -⟩
  · have htop := hbelow hanonymous
    refine ⟨?_, h.after htop⟩
    rw [toNat_add_one (by omega)]
    exact Nat.le_succ _
  · refine ⟨?_, h.raised id⟩
    rw [toNat_raised h.le_top]
    exact Nat.le_max_left _ _

theorem stepCounts_of_exact (h : Exact (stored.ids ++ staged.ids) staged.lastId)
    (hbelow : Unnamed document → greatest (stored.ids ++ staged.ids) < top) :
    StepCounts name stored staged document where
  before := counts_of_exact h
  addition hunnamed := by
    have htop := hbelow hunnamed
    have hlast : staged.lastId.toNat = greatest (stored.ids ++ staged.ids) := h
    exact toNat_add_one (by omega)
  after fields fields' id lastId' hdocument hid := by
    subst hdocument
    obtain ⟨hle, hexact⟩ := exact_of_identify h (fun hanonymous => hbelow ⟨rfl, hanonymous⟩) hid
    exact ⟨hle, counts_of_exact hexact⟩

/-- A step that counts generates nothing behind `top`. -/
theorem StepCounts.below (h : StepCounts name stored staged document)
    (hunnamed : Unnamed document) : greatest (stored.ids ++ staged.ids) < top := by
  have hadd := h.addition hunnamed
  have hgreatest := h.before.greatest_le
  obtain ⟨hobject, hanonymous⟩ := hunnamed
  cases document with
  | obj fields =>
    have hafter := (h.after _ _ _ _ rfl (identify_anonymous hanonymous)).2
    have hle := hafter.le_top
    omega
  | null | bool _ | num _ | str _ | arr _ => cases hobject

/-- The counter is exact wherever the loop comes, if nothing was generated behind `top` before. -/
theorem exact_of_stage_take (h : Exact stored.ids stored.lastId)
    (hbelow : ∀ i staged document, Comes name stored batch i staged document →
      Unnamed document → greatest (stored.ids ++ staged.ids) < top)
    (hstage : stored.stage name (batch.take i) = .ok staged) :
    Exact (stored.ids ++ staged.ids) staged.lastId := by
  induction i generalizing staged with
  | zero =>
    cases hstage
    simpa using h
  | succ i ih =>
    rw [Collection.stage, List.take_add_one, List.foldlM_append] at hstage
    obtain ⟨middle, hmiddle, hrest⟩ := bind_eq_ok hstage
    have hexact := ih hmiddle
    cases hhere : batch[i]? with
    | none =>
      rw [hhere] at hrest
      cases hrest
      exact hexact
    | some document =>
      rw [hhere, Option.toList_some, List.foldlM_cons] at hrest
      obtain ⟨next, hadd, hlast⟩ := bind_eq_ok hrest
      cases hlast
      obtain ⟨fields, fields', id, lastId', rfl, hid, -, -, rfl⟩ := add_cases hadd
      rw [← List.append_assoc]
      exact (exact_of_identify hexact
        (fun hanonymous => hbelow i middle _ ⟨hhere, hmiddle⟩ ⟨rfl, hanonymous⟩) hid).2

/-- Whatever a store went through, the counter of a collection counts, and goes on to do so at every
step of a batch, exactly if it is the greatest number in the collection and no document without an
identifier comes behind `top`. As long as `top` itself is not in the collection, the first of these
holds. -/
theorem counter_counts_iff {store : Store} (h : Reachable store) {session : Session}
    (hsession : store.session = some session) (name : CollectionName) (batch : List Json) :
    let stored := held session name
    let ids := identifiers (session.documents name)
    (Counts ids stored.lastId ∧
        (∀ i staged document, Comes name stored batch i staged document →
          StepCounts name stored staged document) ↔
      stored.lastId.toNat = greatest ids ∧
        ∀ i staged document, Comes name stored batch i staged document →
          Unnamed document → greatest (ids ++ staged.ids) < top) ∧
    (greatest ids < top → stored.lastId.toNat = greatest ids) := by
  intro stored ids
  obtain ⟨entries, hkeyed⟩ := (indexed_of_reachable h hsession).held name
  have hids : ids = stored.ids := by
    show identifiers (session.documents name) = _
    rw [ids_eq_identifiers hkeyed, documents_held]
  have hcounted : Counted stored.ids stored.lastId := counted_of_reachable h hsession name
  rw [hids]
  refine ⟨⟨?_, ?_⟩, hcounted⟩
  · rintro ⟨hcounts, hsteps⟩
    refine ⟨hcounts.exact hcounted, fun i staged document hcomes hunnamed => ?_⟩
    exact (hsteps i staged document hcomes).below hunnamed
  · rintro ⟨hexact, hbelow⟩
    refine ⟨counts_of_exact hexact, fun i staged document hcomes => ?_⟩
    apply stepCounts_of_exact (exact_of_stage_take hexact hbelow hcomes.accepted)
    exact hbelow i staged document hcomes

/-! ## Up to `top` and past it -/

/-- The last two numbers are given, with a text between them and a negative number behind them. -/
def lastArrivals : List Json := [.obj [], guest (.text "y"), .obj [], guest (.int (-3))]

theorem last_guests_count :
    Reachable (bookWith nearlyFull) ∧ (bookWith nearlyFull).session = some nearlyFullSession ∧
    ∀ i staged document,
      Comes guests (held nearlyFullSession guests) lastArrivals i staged document →
        StepCounts guests (held nearlyFullSession guests) staged document := by
  have hsession : (bookWith nearlyFull).session = some nearlyFullSession := by rfl
  have hiff := counter_counts_iff (bookWith_reachable nearlyFull) hsession guests lastArrivals
  refine ⟨bookWith_reachable nearlyFull, hsession, (hiff.1.2 ⟨hiff.2 (by decide), ?_⟩).2⟩
  rintro (_ | _ | _ | _ | i) staged document ⟨hhere, haccepted⟩ hunnamed
  · cases haccepted
    decide
  · cases haccepted
    decide
  · cases haccepted
    decide
  · cases hhere
    obtain ⟨-, hnone | hnull⟩ := hunnamed
    · cases hnone
    · cases hnull
  · cases hhere

def fullSession : Session where
  name := "db"
  label := "first"
  number := 1
  collections := [("guests",
    ⟨[guest (.int Int64.maxValue)], [.int Int64.maxValue], Int64.maxValue.toUInt64⟩)]

/-- Identifiers and counter after a batch that is staged behind `top`. -/
def behindTop (batch : List Json) : Except WriteFault (List DocumentId × UInt64) :=
  ((held fullSession guests).stage guests batch).map fun staged => (staged.ids, staged.lastId)

/-- Behind `top` the counter is read as a negative number. Then a small number is enough to lead it
back, below numbers that are stored, and a negative one leads it to its own end, where the next
addition makes it zero. -/
theorem full_book_miscounts :
    Reachable (bookWith [.int Int64.maxValue]) ∧
    (bookWith [.int Int64.maxValue]).session = some fullSession ∧
    ¬ (Counts (identifiers (fullSession.documents guests)) (held fullSession guests).lastId ∧
      ∀ i staged document, Comes guests (held fullSession guests) [.obj []] i staged document →
        StepCounts guests (held fullSession guests) staged document) ∧
    behindTop [.obj []] = .ok ([.int Int64.minValue], 0x8000000000000000) ∧
    behindTop [.obj [], guest (.int 5)] = .ok ([.int Int64.minValue, .int 5], 5) ∧
    behindTop [.obj [], guest (.int (-1))] =
      .ok ([.int Int64.minValue, .int (-1)], 0xFFFFFFFFFFFFFFFF) ∧
    behindTop [.obj [], guest (.int (-1)), .obj []] =
      .ok ([.int Int64.minValue, .int (-1), .int 0], 0) := by
  refine ⟨bookWith_reachable _, by rfl, ?_, by rfl, by rfl, by rfl, by rfl⟩
  rintro ⟨-, hsteps⟩
  have hstep := hsteps 0 ⟨[], [], Int64.maxValue.toUInt64⟩ (.obj []) ⟨rfl, rfl⟩
  have hafter := (hstep.after [] _ _ _ rfl (identify_anonymous (.inl rfl))).2
  have hcast : ¬ (Int64.maxValue.toUInt64 + 1).toInt64.toInt =
      (Int64.maxValue.toUInt64 + 1).toNat := by decide
  exact hcast hafter.cast

end DocStore.Proofs.Store.Overflow
