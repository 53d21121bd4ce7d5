import DocStore.Proofs.Pipeline.Normal

/-!
# Keys that no one looks at

A lookup is read by four keys. What else stands in its object is neither refused nor kept: the
pipeline that is read is that of the value without these keys, and everything else in the value
comes back when the pipeline is written.
-/
namespace DocStore.Proofs.Pipeline.Ignored

open DocStore.Pipeline Form DocStore.Proofs.Pipeline.Normal
open Values.Objects (Ordered)

variable {read : Pipeline} {value stage : Json} {lookup : Lookup} {key : String}
variable {conditions fields : List (String × Json)}

/-- The keys by which a lookup is read. -/
def lookupKeys : List String := ["from", "localField", "foreignField", "as"]

/-- The fields of a lookup that are looked at. -/
def heededFields (fields : List (String × Json)) : List (String × Json) :=
  fields.filter fun field => field.1 ∈ lookupKeys

def heededStage : Json → Json
  | .obj [("$lookup", .obj fields)] => .obj [("$lookup", .obj (heededFields fields))]
  | stage => stage

/-- The value without the keys of lookups that no one looks at. -/
def heeded : Json → Json
  | .arr stages => .arr (stages.map heededStage)
  | value => value

/-- A lookup among the stages has a field that is not looked at. -/
def Ignores (value : Json) (key : String) : Prop :=
  ∃ stages fields, value = .arr stages ∧ .obj [("$lookup", .obj fields)] ∈ stages ∧
    key ∈ fields.map (·.1) ∧ key ∉ lookupKeys

/-! ## Values without ignored keys -/

theorem heededFields_eq_self_iff :
    heededFields fields = fields ↔ ∀ key ∈ fields.map (·.1), key ∈ lookupKeys := by
  simp [heededFields, List.filter_eq_self]

theorem heededStage_eq_self_iff :
    heededStage stage = stage ↔
      ∀ fields, stage = .obj [("$lookup", .obj fields)] → heededFields fields = fields := by
  unfold heededStage
  split
  · simp
  · rename_i hother
    exact iff_of_true rfl fun fields heq => absurd heq (hother fields)

theorem heeded_eq_self_iff : heeded value = value ↔ ∀ key, ¬ Ignores value key := by
  cases value with
  | arr stages =>
    have hstages : stages.map heededStage = stages ↔
        ∀ stage ∈ stages, heededStage stage = stage := by
      simpa using List.map_inj_left (f := heededStage) (g := id) (l := stages)
    rw [heeded, Json.arr.injEq, hstages]
    constructor
    · rintro hall key ⟨_, fields, heq, hmem, hkey, hignored⟩
      obtain rfl := Json.arr.inj heq
      have hfields := heededStage_eq_self_iff.1 (hall _ hmem) fields rfl
      exact hignored (heededFields_eq_self_iff.1 hfields key hkey)
    · intro hnone stage hmem
      rw [heededStage_eq_self_iff]
      rintro fields rfl
      rw [heededFields_eq_self_iff]
      intro key hkey
      by_contra hignored
      exact hnone key ⟨stages, fields, rfl, hmem, hkey, hignored⟩
  | null | bool _ | num _ | str _ | obj _ =>
    exact iff_of_true rfl fun _ ⟨_, _, heq, _⟩ => nomatch heq

/-! ## Nothing depends on ignored keys -/

theorem get?_heededFields (key : String) (fields : List (String × Json)) :
    Fields.get? key (heededFields fields) =
      if key ∈ lookupKeys then Fields.get? key fields else none := by
  rw [heededFields, Fields.get?_filter (fun key => key ∈ lookupKeys)]
  simp only [decide_eq_true_eq]

theorem lookupText_heededFields (hkey : key ∈ lookupKeys) (fields : List (String × Json)) :
    lookupText (heededFields fields) key = lookupText fields key := by
  rw [lookupText, lookupText, get?_heededFields, if_pos hkey]

theorem lookupOfJson_heededFields (fields : List (String × Json)) :
    lookupOfJson (.obj (heededFields fields)) = lookupOfJson (.obj fields) := by
  have htext : ∀ key ∈ lookupKeys, lookupText (heededFields fields) key = lookupText fields key :=
    fun _ hkey => lookupText_heededFields hkey fields
  simp only [lookupKeys, List.forall_mem_cons] at htext
  obtain ⟨hfrom, hlocal, hforeign, has, -⟩ := htext
  simp only [lookupOfJson, hfrom, hlocal, hforeign, has]

theorem stageOfJson_heededStage (stage : Json) :
    stageOfJson (heededStage stage) = stageOfJson stage := by
  unfold heededStage
  split
  · exact congrArg (Except.map Stage.lookup) (lookupOfJson_heededFields _)
  · rfl

theorem lookupsOfJson_map_heededStage (stages : List Json) :
    lookupsOfJson (stages.map heededStage) = lookupsOfJson stages := by
  induction stages with
  | nil => rfl
  | cons stage rest ih =>
    simp only [List.map_cons, lookupsOfJson, stageOfJson_heededStage, ih]

/-- A pipeline is read or refused as if the ignored keys were not there. -/
theorem ofJson_heeded (value : Json) : ofJson (heeded value) = ofJson value := by
  cases value with
  | arr stages =>
    cases stages with
    | nil => rfl
    | cons first more =>
      simp only [heeded, List.map_cons, ofJson, stageOfJson_heededStage,
        lookupsOfJson_map_heededStage]
  | null | bool _ | num _ | str _ | obj _ => rfl

/-! ## What is read comes back -/

theorem get?_lookupFields_of_not_mem (hkey : key ∉ lookupKeys) (lookup : Lookup) :
    Fields.get? key (lookupFields lookup) = none := by
  simp only [lookupKeys, List.mem_cons, List.not_mem_nil, or_false, not_or] at hkey
  obtain ⟨hfrom, hlocal, hforeign, has⟩ := hkey
  simp [lookupFields, Fields.get?_ofPairs, Fields.get?, Ne.symm hfrom, Ne.symm hlocal,
    Ne.symm hforeign, Ne.symm has]

/-- The four keys have the texts of the lookup under them. -/
theorem get?_of_read (h : lookupOfJson (.obj fields) = .ok lookup) (hkey : key ∈ lookupKeys) :
    Fields.get? key fields = Fields.get? key (lookupFields lookup) := by
  obtain ⟨⟨hcollection, -⟩, ⟨houtput, -⟩, hlocal, hforeign⟩ := lookupOfJson_obj_eq_ok_iff.1 h
  obtain ⟨hfrom, has, hlocalField, hforeignField⟩ := get?_lookupFields lookup
  simp only [lookupKeys, List.mem_cons, List.not_mem_nil, or_false] at hkey
  rcases hkey with rfl | rfl | rfl | rfl
  · rw [hfrom, (lookupText_eq_ok_iff.1 hcollection).1]
  · rw [hlocalField, (lookupText_eq_ok_iff.1 hlocal).1]
  · rw [hforeignField, (lookupText_eq_ok_iff.1 hforeign).1]
  · rw [has, (lookupText_eq_ok_iff.1 houtput).1]

theorem lookupFields_of_read (hsorted : Fields.Sorted fields)
    (h : lookupOfJson (.obj fields) = .ok lookup) : lookupFields lookup = heededFields fields := by
  refine (Fields.ofPairs_sorted _).ext (hsorted.filter _) fun key => ?_
  rw [get?_heededFields]
  by_cases hkey : key ∈ lookupKeys
  · rw [if_pos hkey]
    exact (get?_of_read h hkey).symm
  · rw [if_neg hkey]
    exact get?_lookupFields_of_not_mem hkey lookup

theorem lookupToJson_of_read (hordered : Ordered stage)
    (h : stageOfJson stage = .ok (.lookup lookup)) : lookupToJson lookup = heededStage stage := by
  obtain ⟨spec, rfl, hspec⟩ := lookup_of_stage h
  cases spec with
  | obj fields =>
    have hsorted : Fields.Sorted fields := (hordered.field _ List.mem_cons_self).sorted
    have hwritten : lookupToJson lookup = .obj [("$lookup", .obj (lookupFields lookup))] := rfl
    rw [hwritten, lookupFields_of_read hsorted hspec]
    rfl
  | null | bool _ | num _ | str _ | arr _ => cases hspec

theorem lookups_of_read {stages : List Json} {lookups : List Lookup}
    (hordered : ∀ stage ∈ stages, Ordered stage) (h : lookupsOfJson stages = .ok lookups) :
    lookups.map lookupToJson = stages.map heededStage := by
  have hread := lookupsOfJson_eq_ok h
  clear h
  induction hread with
  | nil => rfl
  | cons hfirst _ ih =>
    obtain ⟨hordered, hrest⟩ := List.forall_mem_cons.1 hordered
    rw [List.map_cons, List.map_cons, lookupToJson_of_read hordered hfirst, ih hrest]

/-- The conditions are read as they stand, whatever their keys are. -/
theorem conditions_of_read (hordered : Ordered stage)
    (h : stageOfJson stage = .ok (.conditions conditions)) :
    .obj [("$match", .obj (Fields.ofPairs conditions))] = heededStage stage := by
  obtain ⟨spec, rfl, hspec⟩ := conditions_of_stage h
  obtain ⟨rfl, -⟩ := conditionsOfJson_eq_ok hspec
  have hsorted : Fields.Sorted conditions := (hordered.field _ List.mem_cons_self).sorted
  rw [Fields.ofPairs_of_sorted hsorted]
  rfl

theorem toJson_of_read (hordered : Ordered value) (h : ofJson value = .ok read) :
    read.toJson = heeded value := by
  obtain ⟨first, more, rfl, hfirst, hmore⟩ := ofJson_eq_ok h
  obtain ⟨hordered, hrest⟩ := List.forall_mem_cons.1 hordered.item
  rw [toJson, heeded, List.map_cons, conditions_of_read hordered hfirst,
    lookups_of_read hrest hmore]

/-- A value is read, or refused with the same fault, as it is without the keys of its lookups that no
one looks at, and the pipeline that is read is written without them. So the value comes back as a
whole exactly if none of its lookups has such a key. -/
theorem read_comes_back_iff (hordered : Ordered value) :
    ofJson (heeded value) = ofJson value ∧
      ∀ read, ofJson value = .ok read →
        read.toJson = heeded value ∧ (read.toJson = value ↔ ∀ key, ¬ Ignores value key) := by
  refine ⟨ofJson_heeded value, fun read hread => ?_⟩
  have hwritten := toJson_of_read hordered hread
  refine ⟨hwritten, ?_⟩
  rw [hwritten]
  exact heeded_eq_self_iff

/-! ## A lookup of rooms -/

/-- The lookup of `withRooms` as it is written. -/
def roomFields : List (String × Json) :=
  [("as", .str "rooms"), ("foreignField", .str "name"), ("from", .str "rooms"),
    ("localField", .str "room")]

/-- Visits to the first floor with their rooms, and more fields in the lookup. -/
def roomsWith (more : List (String × Json)) : Json :=
  .arr [.obj [("$match", .obj [("floor", .bool true)])],
    .obj [("$lookup", .obj (roomFields ++ more))]]

theorem ordered_roomsWith {more : List (String × Json)}
    (hsorted : Fields.Sorted (roomFields ++ more)) (hmore : ∀ field ∈ more, Ordered field.2) :
    Ordered (roomsWith more) := by
  have hrooms : ∀ field ∈ roomFields, Ordered field.2 := by
    simp only [roomFields, List.forall_mem_cons]
    exact ⟨.str _, .str _, .str _, .str _, List.forall_mem_nil _⟩
  have hstage : ∀ {name : String} {fields : List (String × Json)}, Fields.Sorted fields →
      (∀ field ∈ fields, Ordered field.2) → Ordered (.obj [(name, .obj fields)]) :=
    fun hsorted hfields => .obj (List.pairwise_singleton _ _)
      (List.forall_mem_singleton.2 (.obj hsorted hfields))
  refine .arr (List.forall_mem_cons.2 ⟨?_, List.forall_mem_singleton.2 ?_⟩)
  · exact hstage (List.pairwise_singleton _ _) (List.forall_mem_singleton.2 (.bool true))
  · exact hstage hsorted (List.forall_mem_append.2 ⟨hrooms, hmore⟩)

theorem rooms_come_back :
    Ordered (roomsWith []) ∧ ofJson (roomsWith []) = .ok (withRooms [("floor", .bool true)]) ∧
      (withRooms [("floor", .bool true)]).toJson = roomsWith [] := by
  have hordered : Ordered (roomsWith []) :=
    ordered_roomsWith (by unfold Fields.Sorted; decide) (List.forall_mem_nil _)
  have hread : ofJson (roomsWith []) = .ok (withRooms [("floor", .bool true)]) := by rfl
  obtain ⟨-, hback⟩ := read_comes_back_iff hordered
  refine ⟨hordered, hread, (hback _ hread).2.2 ?_⟩
  rintro key ⟨_, fields, heq, hmem, hkey, hignored⟩
  obtain rfl := Json.arr.inj heq
  obtain rfl : fields = roomFields := by simpa using hmem
  have hheeded : roomFields.map (·.1) ⊆ lookupKeys := by decide
  exact hignored (hheeded hkey)

/-- Rooms are to be looked up by a pipeline of their own. They are looked up without it. -/
theorem pipeline_of_rooms_ignored :
    Ordered (roomsWith [("pipeline", .arr [])]) ∧
      ofJson (roomsWith [("pipeline", .arr [])]) = .ok (withRooms [("floor", .bool true)]) ∧
      (withRooms [("floor", .bool true)]).toJson ≠ roomsWith [("pipeline", .arr [])] := by
  refine ⟨?_, by rfl, by decide⟩
  exact ordered_roomsWith (by unfold Fields.Sorted; decide)
    (List.forall_mem_singleton.2 (.arr (List.forall_mem_nil _)))

end DocStore.Proofs.Pipeline.Ignored
