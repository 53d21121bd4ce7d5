import DocStore.Outcome
import DocStore.Pipeline.Form
import DocStore.Proofs.Pipeline.Apply

/-!
# Reading a pipeline back

A pipeline that is written and read again comes back with the same lookups, and with its conditions
in the order of their fields. Of several conditions on one field the last one comes back.
-/
namespace DocStore.Proofs.Pipeline.Form

open DocStore.Pipeline
open Apply (attached filterMap_apply_items)

/-- The pipeline that its written form stands for. -/
def normal (pipeline : Pipeline) : Pipeline where
  conditions := Fields.ofPairs pipeline.conditions
  lookups := pipeline.lookups

/-- The fields under which a lookup is written. -/
def lookupFields (lookup : Lookup) : List (String × Json) :=
  Fields.ofPairs [
    ("from", .str lookup.collection.text), ("localField", .str lookup.localField),
    ("foreignField", .str lookup.foreignField), ("as", .str lookup.output)]

theorem get?_lookupFields (lookup : Lookup) :
    Fields.get? "from" (lookupFields lookup) = some (.str lookup.collection.text) ∧
    Fields.get? "as" (lookupFields lookup) = some (.str lookup.output) ∧
    Fields.get? "localField" (lookupFields lookup) = some (.str lookup.localField) ∧
    Fields.get? "foreignField" (lookupFields lookup) = some (.str lookup.foreignField) := by
  simp [lookupFields, Fields.get?_ofPairs, Fields.get?]

theorem lookupText_eq_ok_iff {fields : List (String × Json)} {key text : String} :
    lookupText fields key = .ok text ↔ Fields.get? key fields = some (.str text) ∧ text ≠ "" := by
  constructor
  · intro h
    unfold lookupText at h
    split at h
    · rename_i written hget
      split at h
      · cases h
      · rename_i hnamed
        obtain rfl := Except.ok.inj h
        exact ⟨hget, hnamed⟩
    · cases h
  · rintro ⟨hget, hnamed⟩
    simp [lookupText, hget, hnamed]

/-- An object is read by the texts under four of its keys. -/
theorem lookupOfJson_obj_eq_ok_iff {fields : List (String × Json)} {lookup : Lookup} :
    lookupOfJson (.obj fields) = .ok lookup ↔
      (lookupText fields "from" = .ok lookup.collection.text ∧ lookup.collection.Valid) ∧
      (lookupText fields "as" = .ok lookup.output ∧ Text.startsWith lookup.output '$' = false) ∧
      lookupText fields "localField" = .ok lookup.localField ∧
      lookupText fields "foreignField" = .ok lookup.foreignField := by
  constructor
  · intro h
    simp only [lookupOfJson] at h
    obtain ⟨collection, hcollection, h⟩ := bind_eq_ok h
    split at h
    · cases h
    rename_i hvalid
    obtain ⟨output, houtput, h⟩ := bind_eq_ok h
    split at h
    · cases h
    rename_i hoperator
    obtain ⟨localField, hlocal, h⟩ := bind_eq_ok h
    obtain ⟨foreignField, hforeign, h⟩ := bind_eq_ok h
    obtain rfl := Except.ok.inj h
    exact ⟨⟨hcollection, Decidable.not_not.1 hvalid⟩, ⟨houtput, Bool.eq_false_iff.2 hoperator⟩,
      hlocal, hforeign⟩
  · rintro ⟨⟨hcollection, hvalid⟩, ⟨houtput, hoperator⟩, hlocal, hforeign⟩
    have hvalid : ¬ ¬ (CollectionName.mk lookup.collection.text).Valid := not_not_intro hvalid
    simp only [lookupOfJson, hcollection, houtput, hlocal, hforeign, bind_eq_ok_iff]
    refine ⟨_, rfl, ?_⟩
    rw [if_neg hvalid]
    refine bind_eq_ok_iff.2 ⟨_, rfl, ?_⟩
    rw [hoperator, if_neg Bool.false_ne_true]
    rfl

theorem lookupOfJson_fields {lookup read : Lookup}
    (h : lookupOfJson (.obj (lookupFields lookup)) = .ok read) : read = lookup := by
  obtain ⟨hfrom, has, hlocal, hforeign⟩ := get?_lookupFields lookup
  obtain ⟨⟨collection⟩, localField, foreignField, output⟩ := read
  simp only [lookupOfJson_obj_eq_ok_iff, lookupText_eq_ok_iff, hfrom, has, hlocal, hforeign,
    Option.some.injEq, Json.str.injEq] at h
  obtain ⟨⟨⟨rfl, -⟩, -⟩, ⟨⟨rfl, -⟩, -⟩, ⟨rfl, -⟩, rfl, -⟩ := h
  rfl

theorem stageOfJson_lookup {lookup : Lookup} {stage : Stage}
    (h : stageOfJson (lookupToJson lookup) = .ok stage) : stage = .lookup lookup := by
  have hstage : stageOfJson (lookupToJson lookup) =
    (lookupOfJson (.obj (lookupFields lookup))).map .lookup := rfl
  rw [hstage] at h
  cases hread : lookupOfJson (.obj (lookupFields lookup)) with
  | error fault =>
    rw [hread] at h
    cases h
  | ok read =>
    rw [hread] at h
    cases h
    rw [lookupOfJson_fields hread]

theorem lookupsOfJson_map {lookups read : List Lookup}
    (h : lookupsOfJson (lookups.map lookupToJson) = .ok read) : read = lookups := by
  induction lookups generalizing read with
  | nil =>
    cases h
    rfl
  | cons lookup rest ih =>
    simp only [List.map_cons, lookupsOfJson] at h
    obtain ⟨stage, hstage, h⟩ := bind_eq_ok h
    obtain rfl := stageOfJson_lookup hstage
    obtain ⟨more, hmore, h⟩ := bind_eq_ok h
    cases h
    rw [ih hmore]

theorem conditionsOfJson_fields {fields read : List (String × Json)}
    (h : conditionsOfJson (.obj fields) = .ok read) : read = fields := by
  obtain ⟨-, -, h⟩ := bind_eq_ok h
  cases h
  rfl

/-- A pipeline that can be read back comes back in its normal form. -/
theorem ofJson_toJson {pipeline read : Pipeline} (h : ofJson pipeline.toJson = .ok read) :
    read = normal pipeline := by
  simp only [toJson, ofJson] at h
  obtain ⟨stage, hstage, h⟩ := bind_eq_ok h
  have hmatch : stageOfJson (.obj [("$match", .obj (Fields.ofPairs pipeline.conditions))]) =
    (conditionsOfJson (.obj (Fields.ofPairs pipeline.conditions))).map .conditions := rfl
  rw [hmatch] at hstage
  cases hconditions : conditionsOfJson (.obj (Fields.ofPairs pipeline.conditions)) with
  | error fault =>
    rw [hconditions] at hstage
    cases hstage
  | ok conditions =>
    rw [hconditions] at hstage
    cases hstage
    obtain ⟨lookups, hlookups, h⟩ := bind_eq_ok h
    cases h
    rw [conditionsOfJson_fields hconditions, lookupsOfJson_map hlookups]
    rfl

/-! ## Conditions on one field -/

/-- The conditions behind which no other one on the same field stands. -/
def lasting : List (String × Json) → List (String × Json)
  | [] => []
  | condition :: rest =>
    if rest.any (·.1 = condition.1) then lasting rest else condition :: lasting rest

/-- The pipeline with the last condition on each field, and the same lookups. -/
def lastly (pipeline : Pipeline) : Pipeline :=
  { pipeline with conditions := lasting pipeline.conditions }

theorem lasting_sublist (conditions : List (String × Json)) :
    (lasting conditions).Sublist conditions := by
  induction conditions with
  | nil => exact List.Sublist.slnil
  | cons condition rest ih =>
    unfold lasting
    split
    · exact ih.cons condition
    · exact ih.cons_cons condition

/-- Where no field comes twice each condition is the last on its field. -/
theorem lasting_of_nodup {conditions : List (String × Json)}
    (h : (conditions.map (·.1)).Nodup) : lasting conditions = conditions := by
  induction conditions with
  | nil => rfl
  | cons condition rest ih =>
    obtain ⟨hfirst, hrest⟩ := List.nodup_cons.1 h
    have hfresh : rest.any (·.1 = condition.1) = false := by
      rw [List.any_eq_false]
      intro other hother heq
      exact hfirst (List.mem_map.2 ⟨other, hother, of_decide_eq_true heq⟩)
    unfold lasting
    rw [hfresh, ih hrest]
    rfl

/-- The last condition on a field is the first one from behind. -/
theorem mem_lasting_iff {conditions : List (String × Json)} {condition : String × Json} :
    condition ∈ lasting conditions ↔
      Fields.get? condition.1 conditions.reverse = some condition.2 := by
  induction conditions with
  | nil => simp [lasting, Fields.get?]
  | cons first rest ih =>
    rw [List.reverse_cons, Fields.get?_append]
    by_cases hfield : first.1 = condition.1
    · have hfirst : Fields.get? condition.1 [first] = some first.2 := by simp [Fields.get?, hfield]
      cases hget : Fields.get? condition.1 rest.reverse with
      | none =>
        have hnone : ∀ other ∈ rest, other.1 ≠ condition.1 := by
          simpa using Fields.get?_eq_none_iff.1 hget
        have hlater : rest.any (·.1 = first.1) = false := by simpa [hfield] using hnone
        have hrest : condition ∉ lasting rest := fun h =>
          hnone condition ((lasting_sublist rest).subset h) rfl
        rw [lasting, hlater, if_neg Bool.false_ne_true, List.mem_cons, hfirst, Option.none_or,
          Option.some.injEq, or_iff_left hrest]
        exact ⟨fun h => congrArg Prod.snd h.symm, fun h => Prod.ext hfield.symm h.symm⟩
      | some value =>
        have hlater : rest.any (·.1 = first.1) = true := by
          have hmem := List.mem_reverse.1 (Fields.mem_of_get? hget)
          exact List.any_eq_true.2 ⟨_, hmem, by simp [hfield]⟩
        simp [lasting, hlater, ih, hget]
    · have hnone : Fields.get? condition.1 [first] = none := by simp [Fields.get?, hfield]
      have hne : condition ≠ first := fun h => hfield (congrArg Prod.fst h.symm)
      rw [hnone, Option.or_none, ← ih]
      cases hlater : rest.any (·.1 = first.1) <;> simp [lasting, hlater, hne]

/-- The written form holds the last condition on each field. -/
theorem mem_lasting_iff_mem_ofPairs {conditions : List (String × Json)}
    {condition : String × Json} :
    condition ∈ lasting conditions ↔ condition ∈ Fields.ofPairs conditions := by
  rw [mem_lasting_iff, ← Fields.get?_ofPairs,
    ← Fields.mem_iff_get? (Fields.ofPairs_sorted conditions).nodup]

theorem lastly_of_nodup {pipeline : Pipeline} (h : (pipeline.conditions.map (·.1)).Nodup) :
    lastly pipeline = pipeline := by
  rw [lastly, lasting_of_nodup h]

theorem accepts_lastly {pipeline : Pipeline} {document : Json}
    (h : pipeline.accepts document = true) : (lastly pipeline).accepts document = true := by
  unfold accepts at h ⊢
  rw [List.all_eq_true] at h ⊢
  exact fun condition hmem => h condition ((lasting_sublist pipeline.conditions).subset hmem)

/-- The last conditions give more results, and the same ones only if they accept no further
document. -/
theorem filterMap_lastly_eq_iff {α : Type} (pipeline : Pipeline) (items : List α)
    (resolve : α → Resolver) (document : α → Json) :
    (items.filterMap fun item => (lastly pipeline).apply (resolve item) (document item)) =
        (items.filterMap fun item => pipeline.apply (resolve item) (document item)) ↔
      ∀ item ∈ items, (lastly pipeline).accepts (document item) = true →
        pipeline.accepts (document item) = true := by
  have hattached : ∀ resolve, attached (lastly pipeline) resolve = attached pipeline resolve :=
    fun _ => rfl
  simp only [filterMap_apply_items, hattached]
  constructor
  · intro heq item hitem haccepted
    -- What the pipeline accepts is among what the last conditions accept, so it is all of that.
    have hamong : (items.filter fun item => pipeline.accepts (document item)) =
        (items.filter fun item => (lastly pipeline).accepts (document item)).filter
          fun item => pipeline.accepts (document item) := by
      rw [List.filter_filter]
      refine List.filter_congr fun item _ => ?_
      exact (Bool.and_eq_left_iff_imp.2 accepts_lastly).symm
    have hlength := congrArg List.length heq
    rw [List.length_map, List.length_map, hamong] at hlength
    exact List.length_filter_eq_length_iff.1 hlength.symm item
      (List.mem_filter.2 ⟨hitem, haccepted⟩)
  · intro hall
    congr 1
    refine List.filter_congr fun item hitem => ?_
    exact Bool.eq_iff_iff.2 ⟨hall item hitem, accepts_lastly⟩

/-- Written conditions are ordered by their fields, and the last one on each field is kept. -/
theorem accepts_normal_eq (pipeline : Pipeline) (document : Json) :
    (normal pipeline).accepts document = (lastly pipeline).accepts document := by
  unfold accepts
  rw [Bool.eq_iff_iff, List.all_eq_true, List.all_eq_true]
  refine forall_congr' fun condition => ?_
  rw [normal, lastly, mem_lasting_iff_mem_ofPairs]

theorem apply_normal_eq (pipeline : Pipeline) :
    (normal pipeline).apply = (lastly pipeline).apply := by
  funext resolve document
  unfold apply
  rw [accepts_normal_eq]
  rfl

theorem accepts_normal {pipeline : Pipeline} (h : (pipeline.conditions.map (·.1)).Nodup)
    (document : Json) : (normal pipeline).accepts document = pipeline.accepts document := by
  rw [accepts_normal_eq, lastly_of_nodup h]

theorem apply_normal {pipeline : Pipeline} (h : (pipeline.conditions.map (·.1)).Nodup) :
    (normal pipeline).apply = pipeline.apply := by
  rw [apply_normal_eq, lastly_of_nodup h]

end DocStore.Proofs.Pipeline.Form
