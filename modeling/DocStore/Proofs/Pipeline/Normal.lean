import DocStore.Proofs.Pipeline.Readable
import DocStore.Proofs.Values.ByteOrder
import DocStore.Proofs.Values.Objects
import Mathlib.Data.List.Nodup

/-!
# The normal form of a pipeline

A pipeline that is written and read back keeps of the conditions on one field the last one, in the
order of the fields. Nothing more is lost if this is done again: the normal form is written as the
pipeline itself, and whatever is read from a value is in normal form.
-/
namespace DocStore.Proofs.Pipeline.Normal

open DocStore.Pipeline Form Readable
open DocStore.Text (utf8)
open Values.ByteOrder (utf8_lt_utf8_iff)
open Values.Objects (Ordered)

variable {pipeline read : Pipeline} {value spec : Json} {lookup : Lookup}
variable {conditions fields : List (String × Json)}

/-! ## One condition on each field -/

theorem lasting_nodup (conditions : List (String × Json)) :
    ((lasting conditions).map (·.1)).Nodup := by
  induction conditions with
  | nil => exact List.nodup_nil
  | cons condition rest ih =>
    unfold lasting
    split
    · exact ih
    · rename_i hlast
      refine List.nodup_cons.2 ⟨fun hmem => hlast ?_, ih⟩
      obtain ⟨other, hother, hfield⟩ := List.mem_map.1 hmem
      exact List.any_eq_true.2 ⟨other, (lasting_sublist rest).subset hother, by simpa using hfield⟩

/-- What is written of the conditions are the last ones on each field, in another order. -/
theorem ofPairs_perm_lasting (conditions : List (String × Json)) :
    (Fields.ofPairs conditions).Perm (lasting conditions) := by
  have hwritten : (Fields.ofPairs conditions).Nodup :=
    (Fields.ofPairs_sorted conditions).nodup.of_map
  have hlasting : (lasting conditions).Nodup := (lasting_nodup conditions).of_map
  exact (List.perm_ext_iff_of_nodup hwritten hlasting).2 fun _ =>
    mem_lasting_iff_mem_ofPairs.symm

theorem normal_of_sorted (h : Fields.Sorted pipeline.conditions) : normal pipeline = pipeline := by
  rw [normal, Fields.ofPairs_of_sorted h]

theorem toJson_normal (pipeline : Pipeline) : (normal pipeline).toJson = pipeline.toJson := by
  have hsorted := Fields.ofPairs_of_sorted (Fields.ofPairs_sorted pipeline.conditions)
  simp only [toJson, normal, hsorted]

theorem exists_ofJson_iff :
    (∃ read, ofJson pipeline.toJson = .ok read) ↔
      ofJson pipeline.toJson = .ok (normal pipeline) := by
  constructor
  · rintro ⟨read, h⟩
    rwa [ofJson_toJson h] at h
  · exact fun h => ⟨_, h⟩

/-! ## What is written and what is read -/

theorem ordered_lookupToJson (lookup : Lookup) : Ordered (lookupToJson lookup) := by
  refine .obj (List.pairwise_singleton _ _) (List.forall_mem_singleton.2 ?_)
  refine .obj (Fields.ofPairs_sorted _) fun field hfield => ?_
  have hwritten := (lasting_sublist _).subset (mem_lasting_iff_mem_ofPairs.2 hfield)
  simp only [List.mem_cons, List.not_mem_nil, or_false] at hwritten
  rcases hwritten with rfl | rfl | rfl | rfl <;> exact .str _

/-- A pipeline is written as a value if what it asks for are values. -/
theorem ordered_toJson (h : ∀ condition ∈ pipeline.conditions, Ordered condition.2) :
    Ordered pipeline.toJson := by
  refine .arr (List.forall_mem_cons.2 ⟨?_, ?_⟩)
  · refine .obj (List.pairwise_singleton _ _) (List.forall_mem_singleton.2 ?_)
    refine .obj (Fields.ofPairs_sorted _) fun condition hcondition => h condition ?_
    exact (lasting_sublist _).subset (mem_lasting_iff_mem_ofPairs.2 hcondition)
  · intro item hitem
    obtain ⟨lookup, -, rfl⟩ := List.mem_map.1 hitem
    exact ordered_lookupToJson lookup

theorem lookupRuns_of_read (h : lookupOfJson spec = .ok lookup) : LookupRuns lookup := by
  cases spec with
  | obj fields =>
    obtain ⟨⟨-, hvalid⟩, ⟨houtput, hoperator⟩, hlocal, hforeign⟩ := lookupOfJson_obj_eq_ok_iff.1 h
    exact ⟨hvalid, (lookupText_eq_ok_iff.1 hlocal).2, (lookupText_eq_ok_iff.1 hforeign).2,
      (lookupText_eq_ok_iff.1 houtput).2, hoperator⟩
  | null | bool _ | num _ | str _ | arr _ => cases h

theorem conditionsOfJson_eq_ok (h : conditionsOfJson spec = .ok conditions) :
    spec = .obj conditions ∧ ∀ condition ∈ conditions, ConditionRuns condition := by
  cases spec with
  | obj fields =>
    obtain rfl := conditionsOfJson_fields h
    exact ⟨rfl, conditionsOfJson_eq_ok_iff.1 h⟩
  | null | bool _ | num _ | str _ | arr _ => cases h

theorem conditions_of_stage (h : stageOfJson value = .ok (.conditions conditions)) :
    ∃ spec, value = .obj [("$match", spec)] ∧ conditionsOfJson spec = .ok conditions := by
  unfold stageOfJson at h
  split at h
  · rename_i spec
    obtain ⟨written, hwritten, heq⟩ := map_eq_ok_iff.1 h
    obtain rfl := Stage.conditions.inj heq
    exact ⟨spec, rfl, hwritten⟩
  · obtain ⟨_, -, heq⟩ := map_eq_ok_iff.1 h
    cases heq
  all_goals cases h

theorem lookup_of_stage (h : stageOfJson value = .ok (.lookup lookup)) :
    ∃ spec, value = .obj [("$lookup", spec)] ∧ lookupOfJson spec = .ok lookup := by
  unfold stageOfJson at h
  split at h
  · obtain ⟨_, -, heq⟩ := map_eq_ok_iff.1 h
    cases heq
  · rename_i spec
    obtain ⟨written, hwritten, heq⟩ := map_eq_ok_iff.1 h
    obtain rfl := Stage.lookup.inj heq
    exact ⟨spec, rfl, hwritten⟩
  all_goals cases h

/-- The stages behind the first are read one by one. -/
theorem lookupsOfJson_eq_ok {values : List Json} {lookups : List Lookup}
    (h : lookupsOfJson values = .ok lookups) :
    List.Forall₂ (fun value lookup => stageOfJson value = .ok (.lookup lookup)) values lookups := by
  induction values generalizing lookups with
  | nil =>
    cases h
    exact .nil
  | cons value rest ih =>
    simp only [lookupsOfJson] at h
    obtain ⟨stage, hstage, h⟩ := bind_eq_ok h
    cases stage with
    | conditions _ => cases h
    | lookup lookup =>
      obtain ⟨more, hmore, h⟩ := bind_eq_ok h
      obtain rfl := Except.ok.inj h
      exact .cons hstage (ih hmore)

theorem ofJson_eq_ok (h : ofJson value = .ok read) :
    ∃ first more, value = .arr (first :: more) ∧
      stageOfJson first = .ok (.conditions read.conditions) ∧
      lookupsOfJson more = .ok read.lookups := by
  unfold ofJson at h
  split at h
  · cases h
  · rename_i first more
    obtain ⟨stage, hstage, h⟩ := bind_eq_ok h
    cases stage with
    | lookup _ => cases h
    | conditions conditions =>
      obtain ⟨lookups, hlookups, h⟩ := bind_eq_ok h
      obtain rfl := Except.ok.inj h
      exact ⟨first, more, rfl, hstage, hlookups⟩
  · cases h

theorem lookupRuns_of_lookups {values : List Json} {lookups : List Lookup}
    (h : lookupsOfJson values = .ok lookups) : ∀ lookup ∈ lookups, LookupRuns lookup := by
  have hread := lookupsOfJson_eq_ok h
  clear h
  induction hread with
  | nil => exact List.forall_mem_nil _
  | cons hfirst _ ih =>
    obtain ⟨spec, -, hspec⟩ := lookup_of_stage hfirst
    exact List.forall_mem_cons.2 ⟨lookupRuns_of_read hspec, ih⟩

/-- Nothing is read that could not be run. -/
theorem runs_of_read (h : ofJson value = .ok read) :
    (∀ condition ∈ read.conditions, ConditionRuns condition) ∧
      ∀ lookup ∈ read.lookups, LookupRuns lookup := by
  obtain ⟨first, more, -, hfirst, hmore⟩ := ofJson_eq_ok h
  obtain ⟨spec, -, hspec⟩ := conditions_of_stage hfirst
  exact ⟨(conditionsOfJson_eq_ok hspec).2, lookupRuns_of_lookups hmore⟩

/-- The conditions stand in the order in which their object has the fields. -/
theorem sorted_of_read (hordered : Ordered value) (h : ofJson value = .ok read) :
    Fields.Sorted read.conditions := by
  obtain ⟨first, more, rfl, hfirst, -⟩ := ofJson_eq_ok h
  obtain ⟨spec, rfl, hspec⟩ := conditions_of_stage hfirst
  obtain ⟨rfl, -⟩ := conditionsOfJson_eq_ok hspec
  exact ((hordered.item _ List.mem_cons_self).field _ List.mem_cons_self).sorted

theorem ofJson_toJson_of_read (hordered : Ordered value) (h : ofJson value = .ok read) :
    ofJson read.toJson = .ok read := by
  have hsorted := sorted_of_read hordered h
  obtain ⟨hconditions, hlookups⟩ := runs_of_read h
  rw [← Fields.ofPairs_of_sorted hsorted] at hconditions
  have hread := ofJson_toJson_eq_ok_iff.2 ⟨hconditions, hlookups⟩
  rwa [normal_of_sorted hsorted] at hread

/-- A pipeline is read back exactly if its lookups and the last condition on each field could be run.
It comes back with the same lookups and with these conditions, in the order of the bytes of their
fields, and is written as before. So what was read from a value once comes back unchanged. -/
theorem reading_back_normalises (pipeline : Pipeline) :
    ((∃ read, ofJson pipeline.toJson = .ok read) ↔
      (∀ condition ∈ lasting pipeline.conditions, ConditionRuns condition) ∧
        ∀ lookup ∈ pipeline.lookups, LookupRuns lookup) ∧
    (∀ read, ofJson pipeline.toJson = .ok read →
      read.lookups = pipeline.lookups ∧
      read.conditions.Perm (lasting pipeline.conditions) ∧
      read.conditions.Pairwise (fun first second => utf8 first.1 < utf8 second.1) ∧
      read.toJson = pipeline.toJson) ∧
    ∀ value read, Ordered value → ofJson value = .ok read → ofJson read.toJson = .ok read := by
  refine ⟨?_, ?_, fun value read => ofJson_toJson_of_read⟩
  · rw [exists_ofJson_iff, ofJson_toJson_eq_ok_iff]
    simp only [mem_lasting_iff_mem_ofPairs]
  · intro read h
    obtain rfl := ofJson_toJson h
    refine ⟨rfl, ofPairs_perm_lasting _, ?_, toJson_normal pipeline⟩
    exact (Fields.ofPairs_sorted pipeline.conditions).imp utf8_lt_utf8_iff.2

/-! ## Two rooms asked for -/

def withRooms (conditions : List (String × Json)) : Pipeline :=
  ⟨conditions, [⟨⟨"rooms"⟩, "room", "name", "rooms"⟩]⟩

/-- The blue room is asked for before the red one, and the floor in between. -/
def bothRooms : Pipeline :=
  withRooms [("room", .str "blue"), ("floor", .bool true), ("room", .str "red")]

def redRoom : Pipeline := withRooms [("floor", .bool true), ("room", .str "red")]

theorem red_room_comes_back :
    ofJson bothRooms.toJson = .ok redRoom ∧ Ordered bothRooms.toJson ∧
      redRoom.toJson = bothRooms.toJson ∧ ofJson redRoom.toJson = .ok redRoom := by
  have hread : ofJson bothRooms.toJson = .ok redRoom := by rfl
  have hordered : Ordered bothRooms.toJson := by
    apply ordered_toJson
    intro condition hcondition
    simp only [bothRooms, withRooms, List.mem_cons, List.not_mem_nil, or_false] at hcondition
    rcases hcondition with rfl | rfl | rfl
    · exact .str "blue"
    · exact .bool true
    · exact .str "red"
  obtain ⟨-, hback, hagain⟩ := reading_back_normalises bothRooms
  obtain ⟨-, -, -, hwritten⟩ := hback redRoom hread
  exact ⟨hread, hordered, hwritten, hagain _ _ hordered hread⟩

end DocStore.Proofs.Pipeline.Normal
